import EdgeControl.Proofs.Agent.Filling
import EdgeControl.Proofs.Kernel.Loading
import EdgeControl.Proofs.Kernel.Tables

/-!
The programs that the entry point calls. The agent registers them while it is set up, but keeps the
table open no longer than that, and the kernel empties it. Nothing that the agent does later fills
it again.
-/
namespace EdgeControl

open EdgeControl.Action

def Kernel.Calls.Complete (c : Calls) : Prop := ∀ t ∈ Program.tailCalls, c.targets[t.1]? = some t.2

namespace Agent

inductive Installation where
  | start
  | rule (r : Config.Rule)
  | policy (p : Config.Policy)
  | backend (spec : Balancer.Spec)
  | frontend

def Installation.action : Installation → Action (Agent Kernel) Unit
  | start => onBalancer Balancer.Service.start
  | rule r => installRule r
  | policy p => installPolicy p
  | backend spec => tryBackend spec
  | frontend => attachOrShutDown

/-- The states of an agent from its set-up on: while its configuration is installed one thing after
the other and afterwards, while it runs, and once it has left. -/
inductive Course (c : Config) (a : Agent Kernel) : Agent Kernel → Prop
  | setUp : Course c a a
  | installing {s t : Agent Kernel} (i : Installation) {answer : Except ServiceError Unit}
      (earlier : Course c a s) (yields : i.action.Yields s answer t) : Course c a t
  | populated {t : Agent Kernel} {answer : Except ServiceError Unit}
      (yields : (populate c).Yields a answer t) : Course c a t
  | carriedOut {s t : Agent Kernel} (o : Order) {answer : Except ServiceError Unit}
      (earlier : Course c a s) (yields : o.action.Yields s answer t) : Course c a t
  | left {s t : Agent Kernel} {answer : Except ServiceError Unit} (earlier : Course c a s)
      (yields : leave.Yields s answer t) : Course c a t

/-! ### The table of calls stays as it is -/

theorem attach_within (ifindex : UInt32) :
    Confined (Same Kernel.calls) (Attacher.attach ifindex : Action Kernel Link) := by
  refine fun k => .get_bind ?_
  split
  · exact .throw rfl
  · exact .set_bind (.note_bind (.pure rfl))

theorem detach_within (link : Link) :
    Confined (Same Kernel.calls) (Attacher.detach link : Action Kernel Unit) :=
  fun _ => .modify_bind (.note rfl)

abbrev SameCalls : Balancer.Service Kernel → Balancer.Service Kernel → Prop :=
  Along Balancer.Service.base (Same Kernel.calls)

theorem lifts_sameCalls : Balancer.Service.Lifts (Same Kernel.calls) SameCalls :=
  ⟨fun _ _ same => same⟩

theorem covers_sameCalls : Balancer.Service.Covers (Same Kernel.calls) SameCalls where
  toLifts := lifts_sameCalls
  registry _ _ := rfl
  attachDevice _ _ := Balancer.Service.attachDevice_confined
    (lifts_sameCalls.onBase (attach_within _)) fun _ _ => rfl
  detachDevice _ := Balancer.Service.detachDevice_confined
    (fun link => lifts_sameCalls.onBase (detach_within link)) fun _ _ => rfl

theorem onBalancer_sameCalls {α : Type} {act : Action (Balancer.Service Kernel) α}
    (h : Confined SameCalls act) : Confined (Along balancer SameCalls) (onBalancer act) :=
  fun a log => h a.balancer log

theorem sameCalls_of_calm {α : Type} {act : Action (Agent Kernel) α}
    (h : Confined (Calm SameCalls) act) : Confined (Along balancer SameCalls) act :=
  fun a => (h a).mono fun _ _ calm => calm.balancer

theorem shutdown_sameCalls : Confined SameCalls Balancer.Service.shutdown :=
  covers_sameCalls.shutdown (fun _ _ => rfl) detach_within

theorem attachOrShutDown_sameCalls :
    Confined (Along balancer SameCalls) (attachOrShutDown : Action (Agent Kernel) Unit) := by
  have attached : Confined (Along balancer SameCalls) (attachFrontend : Action (Agent Kernel) _) :=
    .bind (onBalancer_sameCalls (Balancer.Service.attachFrontend_confined fun ifindex =>
      lifts_sameCalls.onBase (attach_within ifindex))) fun link =>
      .bind (.modify fun _ => rfl) fun _ => .pure _
  refine .bind (.result attached) ?_
  rintro (e | ifindex)
  · exact .bind (onBalancer_sameCalls shutdown_sameCalls) fun _ => .throw e
  · exact .pure _

theorem Installation.action_sameCalls (i : Installation) :
    Confined (Along balancer SameCalls) i.action := by
  cases i with
  | start => exact onBalancer_sameCalls lifts_sameCalls.start
  | rule r => exact sameCalls_of_calm (installRule_calm lifts_sameCalls r)
  | policy p => exact sameCalls_of_calm (installPolicy_calm lifts_sameCalls p)
  | backend spec => exact sameCalls_of_calm (tryBackend_calm covers_sameCalls spec)
  | frontend => exact attachOrShutDown_sameCalls

theorem populate_sameCalls (c : Config) : Confined (Along balancer SameCalls) (populate c) := by
  refine fun a => (populate_cases lifts_sameCalls covers_sameCalls c a).mono ?_
  rintro r t (⟨-, calm⟩ | ⟨f, -, calm, last⟩)
  · exact calm.balancer
  · have first : Along balancer SameCalls a f := calm.balancer
    exact Trans.trans first ((attachOrShutDown_sameCalls f).of_yields last)

theorem leave_sameCalls : Confined (Along balancer SameCalls) leave := by
  have detached : Confined (Along balancer SameCalls) (detachFrontend : Action (Agent Kernel) _) := by
    refine .get_bind fun a => Confined.set_bind rfl ?_
    split
    · exact onBalancer_sameCalls (lifts_sameCalls.onBase (detach_within _))
    · exact .pure _
  refine .bind (.note _) fun _ => .bind (.note _) fun _ => ?_
  refine .bind (onBalancer_sameCalls shutdown_sameCalls) fun _ => .bind (.note _) fun _ => ?_
  refine .bind (.result detached) ?_
  rintro (e | _)
  · exact .bind (.note _) fun _ => .bind (.note _) fun _ => .note _
  · exact .bind (.note _) fun _ => .note _

theorem Order.action_sameCalls (o : Order) :
    Confined (Along balancer SameCalls) (o.action : Action (Agent Kernel) Unit) :=
  sameCalls_of_calm (o.action_calm covers_sameCalls fun _ _ => rfl)

theorem Course.calls {c : Config} {a b : Agent Kernel} (course : Course c a b) :
    b.base.calls = a.base.calls := by
  induction course with
  | setUp => rfl
  | installing i _ yields ih => exact Eq.trans ((i.action_sameCalls _).of_yields yields) ih
  | populated yields => exact (populate_sameCalls c a).of_yields yields
  | carriedOut o _ yields ih => exact Eq.trans ((o.action_sameCalls _).of_yields yields) ih
  | left _ yields ih => exact Eq.trans ((leave_sameCalls _).of_yields yields) ih

theorem not_complete {c : Kernel.Calls} (empty : c.targets = ∅) : ¬ c.Complete := by
  intro complete
  have first := complete (0, .count) (by decide)
  rw [empty] at first
  simp at first

/-- The calls are incomplete in every state that an agent can be in once it is set up, whatever its
configuration and its object file. -/
theorem calls_incomplete (c : Config) (h : Host) (file : Except Refusal Kernel.ObjectFile) :
    (setUp c h file).Gives fun a => ∀ b, Course c a b → ¬ b.base.calls.Complete := by
  intro log a done b course
  have blank : a.Blank := setUp_blank c h file log a done
  apply not_complete
  rw [course.calls]
  exact blank.targets

namespace Sample

def config : Config := {device := "up0", vip := .ofOctets 10 0 0 1}

def host : Host := {devices := [⟨"up0", 2, .zero⟩]}

end Sample

/-- The data plane's own object file is set up without a failure, and the calls are gone. -/
theorem standard_calls_incomplete :
    ∃ a log, (setUp Sample.config Sample.host (.ok (.object .standard))).run #[] = (.ok a, log) ∧
      ¬ a.base.calls.Complete := by
  have works : ((setUp Sample.config Sample.host (.ok (.object .standard))).run #[]).1.isOk := by
    rfl
  rcases done : (setUp Sample.config Sample.host (.ok (.object .standard))).run #[] with
    ⟨e | a, log⟩
  · rw [done] at works
    cases works
  · have blank : a.Blank := setUp_blank _ _ _ #[] a (congrArg Prod.fst done)
    exact ⟨a, log, rfl, not_complete blank.targets⟩

end Agent
end EdgeControl
