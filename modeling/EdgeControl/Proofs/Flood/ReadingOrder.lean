import EdgeControl.Proofs.Flood.Renumbering

/-!
Runs of the service on its own, with the counters read in any order. Two runs whose readings differ
in their order only stay the same up to the numbering of the rules.
-/
namespace EdgeControl.Flood

namespace Snapshot

open Ledger

variable {may may' : Operation → Prop} {v v' w w' : Snapshot} {σ : Equiv.Perm UInt32}
  {observed observed' : List (CounterKey × UInt64)} {n n' : Nat}

theorem Ticking.renumbered (step : v.Ticking may observed n w)
    (step' : v'.Ticking may' observed' n' w') (works : ∀ op, ¬ may op) (works' : ∀ op, ¬ may' op)
    (h : v.ledger.Orderly) (h' : v'.ledger.Orderly) (table : Monitor.IsTable observed)
    (room : v.ledger.Room (v.mitigations observed).length) (same : observed.Perm observed')
    (related : Renumbered σ v.ledger v'.ledger) :
    n' = n ∧ ∃ τ, Renumbered τ w.ledger w'.ledger := by
  have perm : (v.mitigations observed).Perm (v'.mitigations observed') :=
    related.mitigations_perm h.named h'.named table same
  have room' : v'.ledger.Room (v.mitigations observed).length := by
    unfold Room
    rw [related.nextId]
    exact room
  obtain ⟨rfl, ledger⟩ := step.reliable works h room
  obtain ⟨rfl, ledger'⟩ := step'.reliable works' h' (perm.length_eq ▸ room')
  -- First the same mitigations on both sides, then the other order on the second side.
  have founded (x : Mitigation) (member : x ∈ v.mitigations observed) :
      (v'.evaluated observed').monitor.Founded x :=
    Monitor.evaluate_founded h'.named (perm.mem_iff.mp member)
  have one : Renumbered σ ((v.mitigations observed).foldl install _) _ :=
    (related.evaluated same table.distinct).foldl_install room
  obtain ⟨τ, two⟩ := (h'.evaluated observed').foldl_install_perm perm founded room'
  rw [ledger, ledger']
  exact ⟨perm.length_eq.symm, _, one.trans two⟩

theorem SettingPolicy.renumbered {given : Policy} {r r' : Except ServiceError UInt32}
    (step : v.SettingPolicy given r w) (step' : v'.SettingPolicy given r' w')
    (related : Renumbered σ v.ledger v'.ledger) : Renumbered σ w.ledger w'.ledger := by
  cases step with
  | refused e invalid =>
    cases step' with
    | refused => exact related
    | registered id monitor accepted =>
      rw [Monitor.insert_eq_error v'.monitor invalid] at accepted
      cases accepted
  | registered id monitor accepted =>
    cases step' with
    | refused e invalid =>
      rw [Monitor.insert_eq_error v.monitor invalid] at accepted
      cases accepted
    | registered id' monitor' accepted' =>
      obtain ⟨-, -, next, counts, get⟩ := Monitor.insert_ok accepted
      obtain ⟨-, -, next', counts', get'⟩ := Monitor.insert_ok accepted'
      have first : v'.monitor.nextId = v.monitor.nextId := related.nextPolicy
      refine {related with nextPolicy := ?_, counts := fun key => ?_, policies := fun i => ?_}
      · change monitor'.nextId = monitor.nextId
        rw [next, next', first]
      · change monitor'.counts[key]? = monitor.counts[key]?
        rw [counts, counts']
        exact related.counts key
      · change Option.Rel _ (monitor.get? i) (monitor'.get? i)
        rw [get, get', first]
        split
        · exact .some ⟨[], .refl _, rfl⟩
        · exact related.policies i

theorem DeletingPolicy.renumbered {id : UInt32} {r r' : Except ServiceError Unit}
    (step : v.DeletingPolicy may id r w) (step' : v'.DeletingPolicy may' id r' w')
    (works : ∀ op, ¬ may op) (works' : ∀ op, ¬ may' op) (enforced : v.firewall.Enforced)
    (enforced' : v'.firewall.Enforced) (related : Renumbered σ v.ledger v'.ledger) :
    Renumbered σ w.ledger w'.ledger := by
  have policy : Option.Rel (Policy.Renumbered σ) (v.monitor.get? id) (v'.monitor.get? id) :=
    related.policies id
  cases step with
  | unknown absent =>
    rw [absent] at policy
    generalize same : v'.monitor.get? id = q at policy
    cases policy with
    | none =>
      cases step' with
      | unknown => exact related
      | halted p known | deleted p known =>
        rw [same] at known
        cases known
  | halted p known e firewall steps =>
    -- The tables have every rule that the policy names.
    cases (enforced.deletingEach works steps).1
  | deleted p known firewall steps =>
    rw [known] at policy
    generalize same : v'.monitor.get? id = q at policy
    cases policy with
    | some policy =>
      obtain ⟨ids, perm, rfl⟩ := policy
      cases step' with
      | unknown absent =>
        rw [same] at absent
        cases absent
      | halted q known' e firewall' steps' =>
        cases (enforced'.deletingEach works' steps').1
      | deleted q known' firewall' steps' =>
        cases same.symm.trans known'
        obtain ⟨nextId, gone, -, all, left⟩ := steps.registry
        obtain ⟨nextId', gone', -, all', left'⟩ := steps'.registry
        cases all rfl
        cases all' rfl
        exact related.erased id perm nextId nextId' left left'

end Snapshot

/-! ### Runs -/

/-- The same request, with the counters perhaps read in another order. -/
inductive Request.Reordered : Request → Request → Prop
  | refl (request : Request) : Reordered request request
  | tick {observed observed' : List (CounterKey × UInt64)} (same : observed.Perm observed') :
      Reordered (.tick observed) (.tick observed')

inductive Reordered : List Call → List Call → Prop
  | nil : Reordered [] []
  | concat {before before' : List Call} {request request' : Request}
      (earlier : Reordered before before') (same : request.Reordered request') (faults : Faults) :
      Reordered (before ++ [⟨request, faults⟩]) (before' ++ [⟨request', faults⟩])

theorem Snapshot.Step.renumbered {may : Operation → Prop} {v v' w w' : Snapshot}
    {request request' : Request} {σ : Equiv.Perm UInt32} (step : v.Step may request w)
    (step' : v'.Step may request' w') (same : request.Reordered request')
    (works : ∀ op, ¬ may op) (own : request.Own) (h : v.ledger.Orderly) (h' : v'.ledger.Orderly)
    (enforced : v.firewall.Enforced) (enforced' : v'.firewall.Enforced)
    (room : ∀ observed, request = .tick observed →
      v.ledger.Room (v.mitigations observed).length)
    (related : Ledger.Renumbered σ v.ledger v'.ledger) :
    ∃ τ, Ledger.Renumbered τ w.ledger w'.ledger := by
  cases same with
  | refl =>
    cases request with
    | setPolicy given =>
      obtain ⟨r, step⟩ := step
      obtain ⟨r', step'⟩ := step'
      exact ⟨σ, step.renumbered step' related⟩
    | deletePolicy id =>
      obtain ⟨r, step⟩ := step
      obtain ⟨r', step'⟩ := step'
      exact ⟨σ, step.renumbered step' works works enforced enforced' related⟩
    | tick observed =>
      obtain ⟨n, step⟩ := step
      obtain ⟨n', step'⟩ := step'
      exact (step.renumbered step' works works h h' own (room observed rfl) (.refl _) related).2
    | setRule | deleteRule => cases own
  | tick same =>
    obtain ⟨n, step⟩ := step
    obtain ⟨n', step'⟩ := step'
    exact (step.renumbered step' works works h h' own (room _ rfl) same related).2

theorem Reordered.reliable {calls calls' : List Call} (h : Reordered calls calls')
    (reliable : ∀ c ∈ calls, c.Reliable) : ∀ c ∈ calls', c.Reliable := by
  induction h with
  | nil => exact reliable
  | @concat before before' request request' earlier same faults ih =>
    intro c member
    rcases List.mem_append.mp member with earlier | last
    · exact ih (fun d member => reliable d (List.mem_append_left _ member)) c earlier
    · rw [List.mem_singleton.mp last]
      exact reliable ⟨request, faults⟩ (by simp)

theorem Reordered.renumbered {calls calls' : List Call} (h : Reordered calls calls')
    (plain : ∀ c ∈ calls, c.Plain) (supplied : Supplied calls) :
    ∃ σ, Ledger.Renumbered σ (run calls).snapshot.ledger (run calls').snapshot.ledger := by
  induction h with
  | nil => exact ⟨_, .refl Ledger.orderly_start.keyed⟩
  | @concat before before' request request' earlier same faults ih =>
    have plain' : ∀ c ∈ before, c.Plain := fun c member => plain c (List.mem_append_left _ member)
    obtain ⟨σ, related⟩ := ih plain' supplied.of_concat
    obtain ⟨works, own⟩ := plain ⟨request, faults⟩ (by simp)
    have reliable : ∀ c ∈ before, c.Reliable := fun c member => (plain' c member).reliable
    rw [run_concat, run_concat]
    refine ((⟨request, faults⟩ : Call).step _).renumbered ((⟨request', faults⟩ : Call).step _) same
      works own (run_orderly before) (run_orderly before') (run_enforced before reliable)
      (run_enforced before' (earlier.reliable reliable)) ?_ related
    rintro observed rfl
    exact supplied before [] observed faults rfl

/-- A pass over the counters at the end of any run of the service on its own, in which nothing fails
and the ids do not run out. Another order in any of the readings changes the numbering only. -/
theorem run_tick_reacts (calls : List Call) (observed : List (CounterKey × UInt64)) (faults : Faults)
    (plain : ∀ c ∈ calls ++ [⟨.tick observed, faults⟩], c.Plain)
    (supplied : Supplied (calls ++ [⟨.tick observed, faults⟩])) :
    let l := (run calls).snapshot.ledger
    let l' := (run (calls ++ [⟨.tick observed, faults⟩])).snapshot.ledger
    ∃ installed, Reaction observed l l' installed ∧
      ((run calls).outcome faults (Service.tickOn observed)).answer = .ok installed.length ∧
      l'.Tallied ∧
      ∀ calls' observed', Reordered calls calls' → observed.Perm observed' →
        ((run calls').outcome faults (Service.tickOn observed')).answer = .ok installed.length ∧
        ∃ σ, Ledger.Renumbered σ l'
          (run (calls' ++ [⟨.tick observed', faults⟩])).snapshot.ledger := by
  intro l l'
  have plain' : ∀ c ∈ calls, c.Plain := fun c member => plain c (List.mem_append_left _ member)
  have reliable : ∀ c ∈ calls, c.Reliable := fun c member => (plain' c member).reliable
  obtain ⟨works, table⟩ := plain ⟨.tick observed, faults⟩ (by simp)
  have room := supplied calls [] observed faults rfl
  obtain ⟨n, answer, step⟩ := (run calls).ticking faults observed
  obtain ⟨installed, reaction, rfl⟩ := step.reacts works (run_orderly calls) table room
  refine ⟨installed, ?_, answer, run_tallied _ plain supplied, fun calls' observed' reordered same => ?_⟩
  · rw [show l' = _ from congrArg (fun s => s.snapshot.ledger) (run_concat calls _)]
    exact reaction
  · obtain ⟨σ, related⟩ := reordered.renumbered plain' supplied.of_concat
    obtain ⟨n', answer', step'⟩ := (run calls').ticking faults observed'
    obtain ⟨rfl, after⟩ := step.renumbered step' works works (run_orderly calls)
      (run_orderly calls') table room same related
    refine ⟨answer', ?_⟩
    rw [show l' = _ from congrArg (fun s => s.snapshot.ledger) (run_concat calls _), run_concat]
    exact after

namespace Sample

def syn : Policy := {protocol := .tcp, flag := some .syn, limit := 100}

def flood : List (CounterKey × UInt64) :=
  [(policy.counter source, 150), (syn.counter source, 150)]

end Sample

theorem run_tick_reacts_two_policies :
    let calls : List Call := [⟨.setPolicy Sample.policy, .none⟩, ⟨.setPolicy Sample.syn, .none⟩]
    let l' := (run (calls ++ [⟨.tick Sample.flood, .none⟩])).snapshot.ledger
    ∃ installed, Reaction Sample.flood (run calls).snapshot.ledger l' installed ∧
      installed.length = 2 ∧ l'.Tallied ∧ ∃ σ, Ledger.Renumbered σ l'
        (run (calls ++ [⟨.tick Sample.flood.reverse, .none⟩])).snapshot.ledger := by
  intro calls l'
  have plain : ∀ c ∈ calls ++ [⟨.tick Sample.flood, .none⟩], c.Plain := by
    intro c member
    simp only [calls, List.cons_append, List.nil_append, List.mem_cons, List.not_mem_nil,
      or_false] at member
    rcases member with rfl | rfl | rfl
    · exact ⟨Faults.not_mayFail_none, trivial⟩
    · exact ⟨Faults.not_mayFail_none, trivial⟩
    · exact ⟨Faults.not_mayFail_none, by decide, by decide⟩
  have supplied : Supplied (calls ++ [⟨.tick Sample.flood, .none⟩]) := by
    refine ((supplied_nil.concat (c := ⟨.setPolicy Sample.policy, .none⟩) fun _ other => ?_).concat
      (c := ⟨.setPolicy Sample.syn, .none⟩) fun _ other => ?_).concat fun observed same => ?_
    · cases other
    · cases other
    · cases same
      unfold Ledger.Room
      decide +kernel
  obtain ⟨installed, reaction, answer, tallied, reordered⟩ :=
    run_tick_reacts calls Sample.flood .none plain supplied
  have two : ((run calls).outcome .none (Service.tickOn Sample.flood)).answer = .ok 2 := by
    decide +kernel
  rw [two] at answer
  refine ⟨installed, reaction, (Except.ok.inj answer).symm, tallied, ?_⟩
  exact (reordered calls Sample.flood.reverse (.concat (.concat .nil (.refl _) .none) (.refl _) .none)
    (List.reverse_perm _).symm).2

end EdgeControl.Flood
