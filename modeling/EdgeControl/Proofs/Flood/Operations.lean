import EdgeControl.Proofs.Firewall.Operations
import EdgeControl.Proofs.Flood.Transition

/-!
The calls of a flood service on tables in memory do what their relations say, whatever operations of
the host fail and at whatever point, and in whatever order the counters are read.
-/
namespace EdgeControl.Flood.Service

open EdgeControl.Action

theorem deleteRules_ensures (s : Firewall.Service Memory) (ids : List UInt32) :
    (ids.forM Firewall.Service.deleteRule).Ensures s fun r t =>
      t.base.faults.MayFail = s.base.faults.MayFail ∧
        s.snapshot.DeletingEach s.base.faults.MayFail ids r t.snapshot := by
  induction ids generalizing s with
  | nil => exact .pure ⟨rfl, .done _⟩
  | cons id ids ih =>
    refine .bind ((Firewall.Service.deleteRule_ensures s id).mono ?_)
    rintro (e | ⟨⟩) t ⟨faults, step⟩
    · exact ⟨faults, .halted step⟩
    · refine (ih t).mono ?_
      rintro r u ⟨same, steps⟩
      rw [faults] at same steps
      exact ⟨same, .next step steps⟩

theorem setPolicy_ensures (s : Service Memory) (given : Policy) :
    (setPolicy given).Ensures s fun r t => s.snapshot.SettingPolicy given r t.snapshot := by
  refine .get_bind (.bind (.ofExcept (fun found accepted => ?_) fun e invalid => ?_))
  · exact .set_bind (.note_bind (.pure (.registered found.1 found.2 accepted)))
  · exact .refused e invalid

theorem deletePolicy_ensures (s : Service Memory) (id : UInt32) :
    (deletePolicy id).Ensures s fun r t =>
      s.snapshot.DeletingPolicy s.firewall.base.faults.MayFail id r t.snapshot := by
  refine .get_bind ?_
  cases known : s.monitor.get? id with
  | none => exact .pure (.unknown known)
  | some p =>
    refine .bind (.onPart ((deleteRules_ensures s.firewall p.ruleIds).mono ?_))
    rintro (e | ⟨⟩) t ⟨-, steps⟩
    · exact .halted p known e t.snapshot steps
    · exact .modify_bind (.note (.deleted p known t.snapshot steps))

theorem mitigate_ensures (s : Service Memory) (m : Mitigation) :
    (mitigate m).Ensures s fun r t =>
      t.firewall.base.faults.MayFail = s.firewall.base.faults.MayFail ∧ ∃ b, r = .ok b ∧
        s.snapshot.Mitigating s.firewall.base.faults.MayFail m b t.snapshot := by
  refine .bind (.result (.onPart ((Firewall.Service.setRule_ensures s.firewall m.rule).mono ?_)))
  rintro (e | id) t ⟨faults, step⟩
  · exact .note_bind (.pure ⟨faults, false, rfl, .refused e t.snapshot step⟩)
  · refine .get_bind ?_
    dsimp only
    cases recorded : s.monitor.record m.policyId id m.source with
    | error e =>
      exact .note_bind (.pure ⟨faults, false, rfl, .unrecorded id t.snapshot step e recorded⟩)
    | ok monitor =>
      exact .set_bind (.note_bind (.pure
        ⟨faults, true, rfl, .installed id t.snapshot step monitor recorded⟩))

theorem mitigateAll_ensures (s : Service Memory) (ms : List Mitigation) :
    (ms.mapM mitigate).Ensures s fun r t => ∃ bs, r = .ok bs ∧
      Snapshot.MitigatingAll s.firewall.base.faults.MayFail s.snapshot ms bs t.snapshot := by
  induction ms generalizing s with
  | nil => exact .pure ⟨[], rfl, .done _⟩
  | cons m ms ih =>
    rw [List.mapM_cons]
    refine .bind ((mitigate_ensures s m).mono ?_)
    rintro _ t ⟨faults, b, rfl, first⟩
    refine .bind ((ih t).mono ?_)
    rintro _ u ⟨bs, rfl, rest⟩
    rw [faults] at rest
    exact .pure ⟨b :: bs, rfl, .next first rest⟩

theorem noteAll_ensures {σ α : Type} (s : σ) (items : List α) (event : α → LogEvent) :
    (items.forM fun item => (.note (event item) : Action σ Unit)).Ensures s
      fun r t => r = .ok () ∧ t = s := by
  induction items with
  | nil => exact .pure ⟨rfl, rfl⟩
  | cons item items ih =>
    exact .note_bind ih

/-! ### Readings of the counters -/

def reading (observed : List (CounterKey × UInt64)) :
    Action Memory (List (CounterKey × UInt64)) := do
  Memory.ask .counters
  return observed

def tickOn (observed : List (CounterKey × UInt64)) : Action (Service Memory) Nat :=
  @tick Memory _ ⟨reading observed⟩

theorem outcome_tick (s : Service Memory) (log : Log) :
    (tick : Action (Service Memory) Nat).outcome s log =
      (tickOn s.firewall.base.floodCounters.toList).outcome s log := by
  let base := s.firewall.base
  have read (log : Log) : (FloodCounters.counters : Action Memory _).outcome base log =
      (reading base.floodCounters.toList).outcome base log := by
    cases failing : base.faults.fails .counters with
    | true =>
      simp only [FloodCounters.counters, reading, Memory.ask, outcome_bind, outcome_get,
        outcome_set, failing]
      rfl
    | false =>
      simp only [FloodCounters.counters, reading, Memory.ask, outcome_bind, outcome_get,
        outcome_set, failing]
      rfl
  have first : ((onFirewall (Firewall.Service.onBase FloodCounters.counters)).result :
      Action (Service Memory) _).outcome s log =
      (onFirewall (Firewall.Service.onBase
        (reading base.floodCounters.toList))).result.outcome s log := by
    simp only [onFirewall, Firewall.Service.onBase, onPart, result, outcome_ofOutcome]
    rw [read]
  unfold tickOn tick
  rw [outcome_bind, outcome_bind, first]
  rfl

theorem tickOn_ensures (s : Service Memory) (observed : List (CounterKey × UInt64)) :
    (tickOn observed).Ensures s fun r t => ∃ n, r = .ok n ∧
      s.snapshot.Ticking s.firewall.base.faults.MayFail observed n t.snapshot := by
  refine .bind (.result (.onPart (.onPart (.bind (Memory.ensures_ask (fun fault => ?_) ?_)))))
  · exact .note_bind (.pure ⟨0, rfl, .unread fault⟩)
  · refine .pure (.note_bind (.get_bind (.set_bind (.bind ((noteAll_ensures _ _ _).mono ?_)))))
    rintro _ t ⟨rfl, rfl⟩
    refine .bind ((mitigateAll_ensures _ _).mono ?_)
    rintro _ u ⟨bs, rfl, steps⟩
    exact .pure ⟨bs.count true, rfl, .reacted bs u.snapshot steps⟩

end EdgeControl.Flood.Service
