import Mathlib.Data.List.Induction
import EdgeControl.Proofs.Balancer.Journal
import EdgeControl.Proofs.Balancer.Run
import EdgeControl.Proofs.InTurn

/-!
When a balancer attaches the packet program to a device that carries it already. The balancer looks
at its own links only: it misses the link to the frontend's device that the caller holds, and a link
that could not be detached.
-/
namespace EdgeControl

namespace Balancer

/-! ### Attempts -/

def Linked (attempts : List Attempt) (d : UInt32) : Prop :=
  attempts.count (.detach d true) < attempts.count (.attach d true)

instance (attempts : List Attempt) (d : UInt32) : Decidable (Linked attempts d) :=
  inferInstanceAs (Decidable (_ < _))

def Single : List Attempt → Prop :=
  InTurn fun before a => ∀ d done, a = .attach d done → ¬ Linked before d

namespace Ledger

variable {v w : Ledger} {label : Option UInt32} {d i : UInt32}

/-- The device is linked for a backend or for the caller, or it could not be detached. -/
def Carries (v : Ledger) (d : UInt32) : Prop :=
  d ∈ v.links ∨ d = v.frontend ∧ 0 < v.held ∨ .detach d false ∈ v.attempts

def callerLinks (v : Ledger) (d : UInt32) : Nat := if d = v.frontend then v.held else 0

def linkCount (v : Ledger) (d : UInt32) : Nat :=
  (if d ∈ v.links then 1 else 0) + v.callerLinks d

theorem linkCount_pos_iff :
    0 < v.linkCount d ↔ d ∈ v.links ∨ d = v.frontend ∧ 0 < v.held := by
  unfold linkCount callerLinks
  split <;> split <;> simp_all +arith

@[simp] theorem linkCount_attempted (a : Attempt) :
    (v.attempted a).linkCount d = v.linkCount d := rfl

theorem linkCount_take :
    v.take.linkCount d = v.linkCount d + if v.frontend = d then 1 else 0 := by
  have taken : v.take.callerLinks d = v.callerLinks d + if v.frontend = d then 1 else 0 := by
    by_cases same : d = v.frontend
    · simp [callerLinks, take, same]
    · simp [callerLinks, take, same, Ne.symm same]
  rw [linkCount, taken, ← Nat.add_assoc]
  rfl

theorem linkCount_link (free : i ∉ v.links) :
    (v.link i).linkCount d = v.linkCount d + if i = d then 1 else 0 := by
  have kept : (v.link i).callerLinks d = v.callerLinks d := rfl
  by_cases same : i = d
  · subst same
    simp [linkCount, kept, free, Nat.add_comm]
  · simp [linkCount, kept, same]

theorem linkCount_unlink (known : i ∈ v.links) :
    v.linkCount d = (v.unlink i).linkCount d + if i = d then 1 else 0 := by
  have kept : (v.unlink i).callerLinks d = v.callerLinks d := rfl
  by_cases same : i = d
  · subst same
    simp [linkCount, kept, known, Nat.add_comm]
  · simp [linkCount, kept, same]

structure Balanced (v : Ledger) : Prop where
  counts : ∀ d, v.attempts.count (.attach d true) =
    v.attempts.count (.detach d true) + v.attempts.count (.detach d false) + v.linkCount d
  named : ∀ d (link : Link), v.links[d]? = some link → link.ifindex = d

theorem Balanced.linked_iff (h : v.Balanced) : Linked v.attempts d ↔ v.Carries d := by
  have stuck := List.count_pos_iff (l := v.attempts) (a := .detach d false)
  have counts := h.counts d
  have held := linkCount_pos_iff (v := v) (d := d)
  unfold Linked Carries
  rw [← or_assoc, ← held, ← stuck]
  omega

theorem Balanced.step (h : v.Balanced) (step : v.Step label w) : w.Balanced := by
  cases step with
  | quiet => exact h
  | refused d =>
    constructor
    · intro i
      simpa using h.counts i
    · exact h.named
  | taken =>
    constructor
    · intro i
      simp [linkCount_take, List.count_singleton, h.counts i, Nat.add_assoc]
    · exact h.named
  | linked d free =>
    constructor
    · intro i
      simp [linkCount_link free, List.count_singleton, h.counts i, Nat.add_assoc]
    · intro i link known
      rw [links_attempted, links_link, Table.getElem?_insert] at known
      split at known
      · rename_i same
        cases known
        exact same
      · exact h.named i link known
  | unlinked d link known done =>
    have present : d ∈ v.links := by
      simp [Std.ExtTreeMap.mem_iff_isSome_getElem?, known]
    constructor
    · intro i
      have counts := h.counts i
      rw [linkCount_unlink present] at counts
      cases done <;> simp [counts, h.named d link known, List.count_singleton] <;> omega
    · intro i other found
      exact h.named i other (Table.getElem?_of_erase found)

theorem Step.single_iff (step : v.Step label w) :
    Single w.attempts ↔ Single v.attempts ∧ ∀ d, label = some d → ¬ Linked v.attempts d := by
  cases step with
  | quiet => simp
  | refused d | taken | linked d free | unlinked d link known done => simp [Single, inTurn_concat]

end Ledger
end Balancer

/-! ### Runs -/

namespace Journal

open Balancer

variable {P : Type}

inductive Request where
  | attachFrontend
  | setBackend (spec : Spec)
  | drain (id : UInt32)
  | delete (id : UInt32)

/-- A call, and what becomes of the host before it. -/
structure Call (P : Type) where
  request : Request
  during : P → P := id

structure Stage (P : Type) where
  service : Service (Journal P)
  held : Nat := 0

namespace Stage

def ledger (g : Stage P) : Ledger := g.service.ledger g.held

def fresh (frontend : Frontend) (settings : Flow.Settings) (host : P) : Stage P where
  service := {frontend, settings, base := {host}}

theorem fresh_balanced (frontend : Frontend) (settings : Flow.Settings) (host : P) :
    (fresh frontend settings host).ledger.Balanced := by
  constructor
  · intro d
    have none : ¬ 0 < (fresh frontend settings host).ledger.linkCount d := by
      simp [Ledger.linkCount_pos_iff, fresh, ledger, Service.ledger]
    rw [Nat.eq_zero_of_not_pos none]
    rfl
  · intro d link known
    simp [fresh, ledger, Service.ledger] at known

end Stage

section Run

variable [BalancerTables P] [Neighbors P] [Attacher P]

def Call.entered (c : Call P) (g : Stage P) : Service (Journal P) :=
  g.service.onto (c.during g.service.base.host)

/-- The stage that a call leaves, whatever its answer. The caller holds a link it was given. -/
def Call.after (c : Call P) (g : Stage P) : Stage P :=
  match c.request with
  | .attachFrontend =>
    let o := Service.attachFrontend.outcome (c.entered g) #[]
    ⟨o.state, g.held + if o.answer.isOk then 1 else 0⟩
  | .setBackend spec => ⟨((Service.setBackend spec).outcome (c.entered g) #[]).state, g.held⟩
  | .drain id => ⟨((Service.drain id).outcome (c.entered g) #[]).state, g.held⟩
  | .delete id => ⟨((Service.delete id).outcome (c.entered g) #[]).state, g.held⟩

/-- The call asks for an attachment of the device. A registration asks for one when it puts a
backend into the rotation that is behind a device without a link. -/
def Call.Attaches (c : Call P) (g : Stage P) (d : UInt32) : Prop :=
  match c.request with
  | .attachFrontend => d = g.service.frontend.ifindex
  | .setBackend _ =>
    ∃ b, g.service.Places (c.after g).service b ∧ b.ifindex = d ∧ d ∉ g.service.links
  | .drain _ | .delete _ => False

theorem Call.step (c : Call P) (g : Stage P) :
    ∃ label, g.ledger.Step label (c.after g).ledger ∧ ∀ d, c.Attaches g d ↔ label = some d := by
  obtain ⟨request, during⟩ := c
  cases request with
  | attachFrontend =>
    have step := Service.attachFrontend_step (Call.entered ⟨.attachFrontend, during⟩ g) g.held
    exact ⟨_, step #[], fun d => eq_comm.trans Option.some_inj.symm⟩
  | setBackend spec =>
    rcases Service.setBackend_step (Call.entered ⟨.setBackend spec, during⟩ g) g.held spec #[] with
      ⟨turned, same⟩ | ⟨b, placed, step⟩
    · have same : (Call.after ⟨.setBackend spec, during⟩ g).ledger = g.ledger := same
      refine ⟨none, same ▸ .quiet, fun d => ?_⟩
      simp only [reduceCtorEq, iff_false]
      rintro ⟨b, placed, -⟩
      exact Service.not_places turned placed
    · refine ⟨_, step, fun d => ?_⟩
      constructor
      · rintro ⟨other, placed', rfl, free⟩
        rw [placed.unique placed']
        exact if_neg free
      · intro asked
        split at asked
        · cases asked
        · rename_i free
          cases asked
          exact ⟨b, placed, rfl, free⟩
  | drain id =>
    have same : (Call.after ⟨.drain id, during⟩ g).ledger = g.ledger :=
      Service.drain_idle id g.held (Call.entered ⟨.drain id, during⟩ g) #[]
    exact ⟨none, same ▸ .quiet, fun d => by simp [Attaches]⟩
  | delete id =>
    have step := Service.delete_step (Call.entered ⟨.delete id, during⟩ g) g.held id
    exact ⟨none, step #[], fun d => by simp [Attaches]⟩

namespace Stage

def run (g : Stage P) (calls : List (Call P)) : Stage P := calls.foldl (fun h c => c.after h) g

theorem run_concat (g : Stage P) (calls : List (Call P)) (c : Call P) :
    g.run (calls ++ [c]) = c.after (g.run calls) := by
  simp [run]

theorem run_balanced (frontend : Frontend) (settings : Flow.Settings) (host : P)
    (calls : List (Call P)) : ((fresh frontend settings host).run calls).ledger.Balanced := by
  induction calls using List.reverseRecOn with
  | nil => exact fresh_balanced frontend settings host
  | append_singleton calls c ih =>
    obtain ⟨label, step, -⟩ := c.step ((fresh frontend settings host).run calls)
    rw [run_concat]
    exact ih.step step

/-- No device is attached twice just when each call asks only for devices that carry no link: none
of a backend, none of the caller and none that could not be detached. -/
theorem run_single_iff (frontend : Frontend) (settings : Flow.Settings) (host : P)
    (calls : List (Call P)) :
    Single ((fresh frontend settings host).run calls).ledger.attempts ↔
      InTurn (fun before c => ∀ d, c.Attaches ((fresh frontend settings host).run before) d →
        ¬ ((fresh frontend settings host).run before).ledger.Carries d) calls := by
  induction calls using List.reverseRecOn with
  | nil => exact iff_of_true inTurn_nil inTurn_nil
  | append_singleton calls c ih =>
    obtain ⟨label, step, attaches⟩ := c.step ((fresh frontend settings host).run calls)
    rw [run_concat, step.single_iff, ih, inTurn_concat]
    simp only [attaches, (run_balanced frontend settings host calls).linked_iff]

end Stage
end Run

/-! ### A backend behind the frontend's device -/

/-- A host whose only neighbor is behind the frontend's device. -/
def sharing : Memory :=
  {(∅ : Memory) with
    neighbors := (∅ : Std.ExtTreeMap Ipv4 Neighbor).insert Sample.addr
      ⟨.zero, "up0", Sample.frontend.ifindex, .zero⟩}

theorem frontend_device_attached_twice : ¬ Single ((Stage.fresh Sample.frontend {} sharing).run
    [⟨.attachFrontend, id⟩, ⟨.setBackend Sample.spec, id⟩]).ledger.attempts := by
  have twice : ((Stage.fresh Sample.frontend {} sharing).run
      [⟨.attachFrontend, id⟩, ⟨.setBackend Sample.spec, id⟩]).ledger.attempts =
        [.attach 2 true, .attach 2 true] := by decide +kernel
  intro single
  rw [twice] at single
  exact single [.attach 2 true] (.attach 2 true) [] rfl 2 true rfl (by decide)

end Journal
end EdgeControl
