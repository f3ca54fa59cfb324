import EdgeControl.Proofs.Agent.Orders

/-!
The order in which an agent installs its configuration. The device that faces the clients is the
last: by then each rule and each policy is installed, and the registration of each backend was
tried.
-/
namespace EdgeControl

namespace Action

variable {σ α β : Type}

def Yields (act : Action σ α) (s : σ) (answer : Except ServiceError α) (t : σ) : Prop :=
  ∃ log, (act.outcome s log).answer = answer ∧ (act.outcome s log).state = t

theorem ensures_yields (act : Action σ α) (s : σ) : act.Ensures s (act.Yields s) :=
  fun log => ⟨log, rfl, rfl⟩

theorem Ensures.of_yields {act : Action σ α} {s t : σ} {answer : Except ServiceError α}
    {post : Except ServiceError α → σ → Prop} (h : act.Ensures s post)
    (yields : act.Yields s answer t) : post answer t := by
  obtain ⟨log, rfl, rfl⟩ := yields
  exact h log

theorem Ensures.and {act : Action σ α} {s : σ} {post post' : Except ServiceError α → σ → Prop}
    (h : act.Ensures s post) (h' : act.Ensures s post') :
    act.Ensures s fun r t => post r t ∧ post' r t :=
  fun log => ⟨h log, h' log⟩

inductive Each (act : α → Action σ β) (good : Except ServiceError β → Prop) :
    σ → List α → σ → Prop
  | done (s : σ) : Each act good s [] s
  | next {s t u : σ} {item : α} {items : List α} {answer : Except ServiceError β}
      (first : (act item).Yields s answer t) (fine : good answer)
      (rest : Each act good t items u) : Each act good s (item :: items) u

theorem forM_each {act : α → Action σ PUnit} (items : List α) (s : σ) :
    (items.forM act).Ensures s fun r t => r = .ok ⟨⟩ → Each act (· = .ok ⟨⟩) s items t := by
  induction items generalizing s with
  | nil => exact .pure fun _ => .done s
  | cons item items ih =>
    refine .bind ((ensures_yields (act item) s).mono ?_)
    rintro (e | _) t first
    · exact fun answer => nomatch answer
    · exact (ih t).mono fun r u rest answer => .next first rfl (rest answer)

end Action

namespace Agent

open EdgeControl.Action

variable {P : Type} [FirewallTables P] [BalancerTables P] [Neighbors P] [Attacher P]

def Filled (c : Config) (a f : Agent P) : Prop :=
  ∃ started ruled guarded : Agent P,
    (onBalancer Balancer.Service.start).Yields a (.ok ()) started ∧
    Each installRule (· = .ok ()) started c.rules ruled ∧
    Each installPolicy (· = .ok ()) ruled c.policies guarded ∧
    Each (fun spec => onBalancer (Balancer.Service.setBackend spec)) (fun _ => True)
      guarded c.backends f

omit [FirewallTables P] in
theorem tryBackends_each (specs : List Balancer.Spec) (a : Agent P) :
    (specs.forM tryBackend).Ensures a fun r t => r = .ok () ∧
      Each (fun spec => onBalancer (Balancer.Service.setBackend spec)) (fun _ => True)
        a specs t := by
  induction specs generalizing a with
  | nil => exact .pure ⟨rfl, .done a⟩
  | cons spec specs ih =>
    refine .bind (.bind (.result ((ensures_yields _ a).mono ?_)))
    rintro (e | id) t first
    · exact .note ((ih t).mono fun _ _ h => ⟨h.1, .next first trivial h.2⟩)
    · exact .pure ((ih t).mono fun _ _ h => ⟨h.1, .next first trivial h.2⟩)

variable {inner : P → P → Prop} {early late : Balancer.Service P → Balancer.Service P → Prop}
  [Std.Refl inner] [Trans inner inner inner] [Std.Refl early] [Trans early early early]
  [Std.Refl late] [Trans late late late] [FirewallTables.Within inner]
  [BalancerTables.Within inner] [Neighbors.Within inner]

/-- Either the device that faces the clients is not asked for, because something could not be
installed, or all is in place before it is. -/
theorem populate_cases (lifts : Balancer.Service.Lifts inner early)
    (covers : Balancer.Service.Covers inner late) (c : Config) (a : Agent P) :
    (populate c).Ensures a fun r t => (∃ e, r = .error e) ∧ Calm early a t ∨
      ∃ f, Filled c a f ∧ Calm late a f ∧ attachOrShutDown.Yields f r t := by
  have both {α : Type} {act : Action (Agent P) α} (s : Agent P)
      (h : Confined (Calm early) act) (h' : Confined (Calm late) act) :
      act.Ensures s fun _ t => Calm early s t ∧ Calm late s t := (h s).and (h' s)
  refine .bind (((both a (onBalancer_calm lifts.start)
    (onBalancer_calm covers.start)).and (ensures_yields _ a)).mono ?_)
  rintro (e | _) s ⟨⟨early, late⟩, started⟩
  · exact .inl ⟨⟨e, rfl⟩, early⟩
  refine .bind (((both s (.forM (installRule_calm lifts))
    (.forM (installRule_calm covers.toLifts))).and (forM_each c.rules s)).mono ?_)
  rintro (e | _) t ⟨⟨early', late'⟩, ruled⟩
  · exact .inl ⟨⟨e, rfl⟩, Trans.trans early early'⟩
  replace early := Trans.trans early early'
  replace late := Trans.trans late late'
  refine .bind (((both t (.forM (installPolicy_calm lifts))
    (.forM (installPolicy_calm covers.toLifts))).and (forM_each c.policies t)).mono ?_)
  rintro (e | _) u ⟨⟨early', late'⟩, guarded⟩
  · exact .inl ⟨⟨e, rfl⟩, Trans.trans early early'⟩
  replace late := Trans.trans late late'
  refine .get_bind (.note_bind (.bind (((Confined.forM (tryBackend_calm covers) u).and
    (tryBackends_each c.backends u)).mono ?_)))
  rintro _ f ⟨late', rfl, tried⟩
  have filled : Filled c a f := ⟨s, t, u, started, ruled rfl, guarded rfl, tried⟩
  refine .bind ((ensures_yields attachOrShutDown f).mono ?_)
  rintro (e | _) v last
  · exact .inr ⟨f, filled, Trans.trans late late', last⟩
  · exact .note (.inr ⟨f, filled, Trans.trans late late', last⟩)

end Agent
end EdgeControl
