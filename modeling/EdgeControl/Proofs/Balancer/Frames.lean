import EdgeControl.Balancer.Service
import EdgeControl.Proofs.Within

/-!
Operations of a balancer on any host: when what they ask of the host makes only changes of a kind,
so do they.
-/
namespace EdgeControl.Balancer.Service

open EdgeControl.Action

variable {P : Type} {change : Service P → Service P → Prop} [Std.Refl change]
  [Trans change change change]

omit [Trans change change change] in
theorem throwAll_confined (es : List ServiceError) : Confined change (throwAll es) := by
  unfold throwAll
  split
  · exact .pure _
  · exact .throw _

theorem findNeighbor_confined [Neighbors P] {addr : Ipv4}
    (probe : Confined change (onBase (Neighbors.probe addr)))
    (resolve : Confined change (onBase (Neighbors.resolve addr))) :
    Confined change (findNeighbor addr) := by
  refine .bind (.result probe) fun probed => ?_
  cases probed with
  | ok _ =>
    refine .bind resolve ?_
    rintro (none | neighbor)
    · exact .throw _
    · exact .pure _
  | error e =>
    refine .bind (.note _) fun _ => .bind resolve ?_
    rintro (none | neighbor)
    · exact .throw _
    · exact .pure _

theorem drain_confined [BalancerTables P] {id : UInt32}
    (slots : ∀ slot i, Confined change (onBase (BalancerTables.setSlot slot i)))
    (record : ∀ info, Confined change (onBase (BalancerTables.setBackendInfo id info)))
    (committed : ∀ (s : Service P) registry, change s {s with registry}) :
    Confined change (drain id) := by
  refine .bind .get fun s => .bind (.ofExcept _ _) fun writes => .bind .get fun s => ?_
  split
  · refine .bind (.forM fun w => slots _ _) fun _ => .bind (record _) fun _ => ?_
    refine .get_bind fun s => .bind (.ofExcept (fun registry _ => ?_) fun e _ => Std.Refl.refl s)
    exact Confined.set_bind (committed s registry) (.note _)
  · exact .throw _

theorem checkDrained_confined [BalancerTables P] {b : Backend}
    (read : Confined change (onBase (BalancerTables.backendInfo? b.id))) :
    Confined change (checkDrained b) := by
  refine .bind read fun found => ?_
  cases found with
  | some info =>
    dsimp only
    split
    · exact .pure _
    · exact .bind (.note _) fun _ => .throw _
  | none =>
    dsimp only
    split
    · exact .bind (.note _) fun _ => .pure _
    · exact .throw _

theorem attachDevice_confined [Attacher P] {id ifindex : UInt32}
    (attach : Confined change (onBase (Attacher.attach ifindex)))
    (links : ∀ (s : Service P) links, change s {s with links}) :
    Confined change (attachDevice id ifindex) := by
  refine .bind .get fun s => ?_
  split
  · exact .note _
  · exact .bind attach fun link => .modify fun s => links s _

theorem detachDevice_confined [Attacher P] {ifindex : UInt32}
    (detach : ∀ link, Confined change (onBase (Attacher.detach link)))
    (links : ∀ (s : Service P) links, change s {s with links}) :
    Confined change (detachDevice ifindex) := by
  refine .get_bind fun s => ?_
  split
  · exact Confined.set_bind (links s _) (detach _)
  · exact .pure (Std.Refl.refl s)

theorem attachFrontend_confined [Attacher P]
    (attach : ∀ ifindex, Confined change (onBase (Attacher.attach ifindex))) :
    Confined change attachFrontend :=
  .bind .get fun _ => .bind (attach _) fun _ => .bind (.note _) fun _ => .pure _

/-! ### Whole operations -/

/-- Changes that take in the changes `inner` of the host. -/
structure Lifts (inner : P → P → Prop) (change : Service P → Service P → Prop) : Prop where
  base (s : Service P) (base : P) : inner s.base base → change s {s with base}

namespace Lifts

variable {inner : P → P → Prop} (lifts : Lifts inner change)
include lifts

omit [Std.Refl change] [Trans change change change] in
theorem onBase {α : Type} {act : Action P α} (h : Confined inner act) :
    Confined change (onBase act) :=
  fun s log => lifts.base s _ (h s.base log)

theorem start [BalancerTables P] [BalancerTables.Within inner] : Confined change start := by
  refine .bind .get fun s => .bind (.ofExcept _ _) fun info => .bind (.note _) fun _ => ?_
  refine .bind (lifts.onBase (BalancerTables.Within.setFrontend _)) fun _ => ?_
  exact .bind (lifts.onBase (BalancerTables.Within.allowRedirect _)) fun _ => .note _

theorem syncFlows [FlowTable P] [FlowTable.Within inner]
    (tracker : ∀ (s : Service P) tracker, change s {s with tracker}) (now : Instant) :
    Confined change (syncFlows now) := by
  have purged (key : Flow.Key) : Confined change (purge key) := by
    refine .bind (.result (lifts.onBase (FlowTable.Within.removeFlow key))) ?_
    rintro (e | _)
    · exact .pure _
    · exact .bind (.modify fun s => tracker s _) fun _ => .pure _
  have dropped (live : List Flow.Key) : Confined change (dropStale live) := by
    refine .get_bind fun s => Confined.set_bind (tracker s _) ?_
    dsimp only
    split
    · exact .note _
    · exact .pure _
  refine .bind (lifts.onBase FlowTable.Within.flows) fun reading => .get_bind fun s => ?_
  refine Confined.set_bind (tracker s _) (.bind (.mapM purged) fun purges => ?_)
  refine .guarded (.note _) fun _ => .guarded (dropped _) fun _ => ?_
  exact .bind (throwAll_confined _) fun _ => .pure _

end Lifts

/-- Changes that take in all that is done for single backends. -/
structure Covers (inner : P → P → Prop) (change : Service P → Service P → Prop) [Attacher P] : Prop
    extends Lifts inner change where
  registry (s : Service P) (registry : Registry) : change s {s with registry}
  attachDevice (id ifindex : UInt32) : Confined change (attachDevice id ifindex)
  detachDevice (ifindex : UInt32) : Confined change (detachDevice ifindex)

namespace Covers

variable {inner : P → P → Prop} [Attacher P] (covers : Covers inner change)
include covers

variable [BalancerTables P] [BalancerTables.Within inner]

theorem drain (id : UInt32) : Confined change (drain id) :=
  drain_confined (fun _ _ => covers.onBase (BalancerTables.Within.setSlot _ _))
    (fun _ => covers.onBase (BalancerTables.Within.setBackendInfo _ _)) covers.registry

theorem setBackend [Neighbors P] [Neighbors.Within inner] (spec : Spec) :
    Confined change (setBackend spec) := by
  have found : Confined change (findNeighbor spec.addr) :=
    findNeighbor_confined (covers.onBase (Neighbors.Within.probe _))
      (covers.onBase (Neighbors.Within.resolve _))
  refine .bind (.ofExcept _ _) fun _ => .bind found fun neighbor => ?_
  refine .bind .get fun s => .bind (.ofExcept _ _) fun slot => .get_bind fun s => ?_
  refine Confined.set_bind (covers.registry s _) ?_
  refine .bind (covers.onBase (BalancerTables.Within.setBackendInfo _ _)) fun _ => ?_
  refine .bind (.modify fun s => covers.registry s _) fun _ => ?_
  refine .bind (covers.onBase (BalancerTables.Within.setBackendIfindex _ _)) fun _ => ?_
  refine .bind (covers.onBase (BalancerTables.Within.allowRedirect _)) fun _ => ?_
  refine .bind (covers.onBase (BalancerTables.Within.setSlot _ _)) fun _ => ?_
  refine .bind (.modify fun s => covers.registry s _) fun _ => .bind (.note _) fun _ => ?_
  exact .bind (covers.attachDevice _ _) fun _ => .bind (.note _) fun _ => .pure _

theorem delete (id : UInt32) : Confined change (delete id) := by
  refine .bind .get fun s => ?_
  split
  · rename_i b known
    refine .bind (checkDrained_confined
      (covers.onBase (BalancerTables.Within.backendInfo? _))) fun recorded => .bind .get fun s => ?_
    refine .guarded (covers.detachDevice _) fun _ => ?_
    refine .guarded (covers.onBase (BalancerTables.Within.removeBackendInfo _)) fun _ => ?_
    split
    · refine .bind (covers.onBase (BalancerTables.Within.setBackendIfindex _ _)) fun _ => ?_
      exact .bind (.modify fun s => covers.registry s _) fun _ => .note _
    · refine .bind (covers.onBase (BalancerTables.Within.removeBackendIfindex _)) fun _ => ?_
      refine .bind .get fun s =>
        .guarded (covers.onBase (BalancerTables.Within.revokeRedirect _)) fun _ => ?_
      exact .bind (.modify fun s => covers.registry s _) fun _ => .note _
  · exact .pure _

theorem deleteAll : Confined change deleteAll := by
  refine .bind .get fun s => .bind (.mapM fun id => ?_) fun failures => throwAll_confined _
  refine .bind (.result (covers.delete id)) ?_
  rintro (e | _)
  · exact .pure _
  · exact .pure _

theorem shutdown (links : ∀ (s : Service P) links, change s {s with links})
    (detach : ∀ link, Confined inner (Attacher.detach link)) : Confined change shutdown := by
  have detached (link : Link) : Confined change (detachLeftover link) := by
    refine .bind (.result (covers.onBase (detach link))) ?_
    rintro (e | _)
    · exact .note _
    · exact .note _
  have released : Confined change (do
      let left := (← get).links.values
      modify fun s : Service P => {s with links := ∅}
      left.forM detachLeftover) :=
    .bind .get fun s => .bind (.modify fun s => links s ∅) fun _ => .forM detached
  refine .bind (.result covers.deleteAll) ?_
  rintro (e | _)
  · exact .bind (.note _) fun _ => released
  · exact released

end Covers
end EdgeControl.Balancer.Service
