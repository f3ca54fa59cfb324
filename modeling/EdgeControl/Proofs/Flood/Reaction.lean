import EdgeControl.Proofs.Flood.Installing
import EdgeControl.Proofs.InTurn

/-!
What a pass over the counters comes to when nothing fails: a rule for every mitigation that is due,
recorded by its policy, and nothing else. The service keeps a tally of what it did: a policy has as
many rules as it blocks sources.
-/
namespace EdgeControl.Flood

namespace Policy

variable {p : Policy} {entries : List (UInt32 × Mitigation)} {e : UInt32 × Mitigation}

theorem ruleIds_credits (p : Policy) (entries : List (UInt32 × Mitigation)) :
    (p.credits entries).ruleIds = p.ruleIds ++ entries.map Prod.fst := by
  induction entries generalizing p with
  | nil => exact (List.append_nil _).symm
  | cons e entries ih =>
    refine (ih (p.credit e.1 e.2.source)).trans ?_
    rw [credit, List.append_assoc, List.singleton_append, List.map_cons]

theorem mem_credits {source : Ipv4} : source ∈ (p.credits entries).blocked ↔
    source ∈ entries.map (fun e => e.2.source) ∨ source ∈ p.blocked := by
  induction entries generalizing p with
  | nil => simp [credits]
  | cons e entries ih =>
    refine (ih (p := p.credit e.1 e.2.source)).trans ?_
    rw [mem_credit, List.map_cons, List.mem_cons, eq_comm, or_left_comm, or_assoc]

end Policy

/-- From one ledger to the next by a pass over the counters that installed some mitigations. -/
structure Reaction (observed : List (CounterKey × UInt64)) (l l' : Ledger)
    (installed : List (UInt32 × Mitigation)) : Prop where
  due : ∀ x, x ∈ installed.map Prod.snd ↔ l.monitor.Due observed x
  once : (installed.map fun e => (e.2.policyId, e.2.source)).Nodup
  rules : l'.rules.toList =
    l.rules.toList ++ installed.map fun e => {e.2.rule with id := e.1, dropCount := 0}
  policies : ∀ id, l'.monitor.get? id = (l.monitor.get? id).map fun p =>
    p.credits (installed.filter fun e => e.2.policyId = id)
  recorded : ∀ e ∈ installed, ∃ p, l'.monitor.get? e.2.policyId = some p ∧ e.1 ∈ p.ruleIds ∧
    e.2.source ∈ p.blocked
  counted : ∀ key count, (key, count) ∈ observed → l'.monitor.lastCount? key = some count
  uncounted : ∀ key, key ∉ observed.map Prod.fst →
    l'.monitor.lastCount? key = l.monitor.lastCount? key

namespace Snapshot

open Ledger

variable {may : Operation → Prop} {v w : Snapshot} {observed : List (CounterKey × UInt64)} {n : Nat}

def mitigations (v : Snapshot) (observed : List (CounterKey × UInt64)) : List Mitigation :=
  (v.monitor.evaluate observed).1.mitigations

theorem Ticking.reliable (step : v.Ticking may observed n w) (works : ∀ op, ¬ may op)
    (h : v.ledger.Orderly) (room : v.ledger.Room (v.mitigations observed).length) :
    n = (v.mitigations observed).length ∧
      w.ledger = (v.mitigations observed).foldl install (v.evaluated observed).ledger := by
  cases step with
  | unread fault => exact absurd fault (works _)
  | reacted bs w steps =>
    exact steps.reliable works (fun x member => Monitor.evaluate_founded h.named member) room

theorem Ticking.reacts (step : v.Ticking may observed n w) (works : ∀ op, ¬ may op)
    (h : v.ledger.Orderly) (table : Monitor.IsTable observed)
    (room : v.ledger.Room (v.mitigations observed).length) :
    ∃ installed, Reaction observed v.ledger w.ledger installed ∧ n = installed.length := by
  obtain ⟨rfl, ledger⟩ := step.reliable works h room
  let next := v.firewall.registry.nextId
  let installed := numbered next (v.mitigations observed)
  have founded (x : Mitigation) (member : x ∈ v.mitigations observed) :
      (v.evaluated observed).monitor.Founded x := Monitor.evaluate_founded h.named member
  have policies (id : UInt32) : w.ledger.monitor.get? id = (v.monitor.get? id).map fun p =>
      p.credits (installed.filter fun e => e.2.policyId = id) := by
    rw [ledger, policy?_foldl_install, show (v.evaluated observed).ledger.monitor.get? id =
      v.monitor.get? id from Monitor.get?_evaluate]
    rfl
  have counts (key : CounterKey) : w.ledger.monitor.lastCount? key =
      (v.monitor.evaluate observed).2.lastCount? key := by
    rw [ledger]
    exact congrArg (·[key]?) (foldl_install_frame _ _).1
  have reaction : Reaction observed v.ledger w.ledger installed := by
    constructor
    case due =>
      intro x
      have same : installed.map Prod.snd = v.mitigations observed :=
        (map_numbered id next _).trans (List.map_id _)
      rw [same]
      exact Monitor.mem_mitigations h.named table
    case once =>
      have same := map_numbered (fun x => (x.policyId, x.source)) next (v.mitigations observed)
      rw [same]
      exact Monitor.mitigations_once h.named table
    case rules =>
      rw [ledger]
      exact toList_foldl_install (h.evaluated observed) founded room
    case policies => exact policies
    case recorded =>
      intro e member
      obtain ⟨p, known, -⟩ := founded e.2 (snd_mem_of_mem_numbered member)
      let entries := installed.filter fun f => f.2.policyId = e.2.policyId
      have own : e ∈ entries := List.mem_filter.mpr ⟨member, decide_eq_true rfl⟩
      refine ⟨p.credits entries, ?_, ?_, ?_⟩
      · rw [policies, Monitor.get?_evaluate.symm.trans known, Option.map_some]
      · rw [Policy.ruleIds_credits]
        exact List.mem_append_right _ (List.mem_map_of_mem own)
      · exact Policy.mem_credits.mpr (.inl (List.mem_map_of_mem (f := fun e => e.2.source) own))
    case counted =>
      intro key count member
      exact (counts key).trans (Monitor.lastCount?_evaluate_of_mem table.distinct member)
    case uncounted =>
      intro key absent
      exact (counts key).trans (Monitor.lastCount?_evaluate_of_absent absent)
  exact ⟨installed, reaction, (length_numbered next _).symm⟩

end Snapshot

/-! ### The tally -/

namespace Ledger

variable {l : Ledger} {xs : List Mitigation}

def Tallied (l : Ledger) : Prop := ∀ id p, l.monitor.get? id = some p → p.Tallied

theorem Tallied.foldl_install (tallied : l.Tallied) (h : l.Orderly) (room : l.Room xs.length)
    (once : (xs.map fun x => (x.policyId, x.source)).Nodup)
    (free : ∀ x ∈ xs, ∀ p, l.monitor.get? x.policyId = some p → x.source ∉ p.blocked) :
    (xs.foldl install l).Tallied := by
  intro id q known
  rw [policy?_foldl_install, Option.map_eq_some_iff] at known
  obtain ⟨p, known, rfl⟩ := known
  have small : l.rules.nextId.toNat + xs.length < UInt32.size :=
    Nat.lt_of_le_of_lt room (by decide)
  obtain ⟨above, ascending⟩ := numbered_ascending small
  -- What one policy records is the part of the list that is for it.
  rw [← map_numbered _ l.rules.nextId] at once
  have own {e : UInt32 × Mitigation} (member : e ∈ (numbered l.rules.nextId xs).filter
      fun e => e.2.policyId = id) : e ∈ numbered l.rules.nextId xs ∧ e.2.policyId = id :=
    (List.mem_filter.mp member).imp_right of_decide_eq_true
  apply (tallied id p known).credits
  · rw [List.Nodup, List.pairwise_map]
    exact ((List.pairwise_map.mp ascending).filter _).imp UInt32.ne_of_lt
  · rw [List.Nodup, List.pairwise_map]
    refine ((List.pairwise_map.mp once).filter _).imp_of_mem fun member member' apart same => ?_
    exact apart (Prod.ext ((own member).2.trans (own member').2.symm) same)
  · intro e member recorded
    exact UInt32.lt_irrefl _ (UInt32.lt_of_lt_of_le (h.given id p known _ recorded)
      (above e (own member).1))
  · intro e member
    obtain ⟨listed, policy⟩ := own member
    exact free e.2 (snd_mem_of_mem_numbered listed) p (policy ▸ known)

end Ledger

/-! ### Runs of the service on its own -/

/-- The service's own calls, with counters as the data plane writes them. -/
def Request.Own : Request → Prop
  | .setPolicy _ | .deletePolicy _ => True
  | .tick observed => Monitor.IsTable observed
  | .setRule _ | .deleteRule _ => False

structure Call.Plain (c : Call) : Prop where
  reliable : c.Reliable
  own : c.request.Own

/-- Whenever the counters are read, ids are left for all rules that are wanted. -/
def Supplied (calls : List Call) : Prop :=
  ∀ before after observed faults, calls = before ++ ⟨.tick observed, faults⟩ :: after →
    (run before).snapshot.ledger.Room ((run before).snapshot.mitigations observed).length

theorem supplied_nil : Supplied [] := by
  intro before after observed faults split
  cases before <;> cases split

theorem Supplied.concat {calls : List Call} {c : Call} (h : Supplied calls)
    (room : ∀ observed, c.request = .tick observed →
      (run calls).snapshot.ledger.Room ((run calls).snapshot.mitigations observed).length) :
    Supplied (calls ++ [c]) := by
  intro before after observed faults split
  rcases concat_eq_append_cons split with ⟨rfl, rfl, -⟩ | ⟨rest, earlier, -⟩
  · exact room observed rfl
  · exact h before rest observed faults earlier

theorem Supplied.of_concat {calls : List Call} {c : Call} (h : Supplied (calls ++ [c])) :
    Supplied calls := by
  rintro before after observed faults rfl
  exact h before (after ++ [c]) observed faults (by simp)

namespace Snapshot

open Ledger

variable {may : Operation → Prop} {v w : Snapshot} {observed : List (CounterKey × UInt64)} {n : Nat}

theorem Ticking.tallied (step : v.Ticking may observed n w) (works : ∀ op, ¬ may op)
    (h : v.ledger.Orderly) (table : Monitor.IsTable observed)
    (room : v.ledger.Room (v.mitigations observed).length) (tallied : v.ledger.Tallied) :
    w.ledger.Tallied := by
  obtain ⟨-, ledger⟩ := step.reliable works h room
  have before : (v.evaluated observed).ledger.Tallied := fun id p known =>
    tallied id p (Monitor.get?_evaluate.symm.trans known)
  rw [ledger]
  refine before.foldl_install (h.evaluated observed) room (Monitor.mitigations_once h.named table) ?_
  -- A mitigation is due only as long as its policy has not blocked the source.
  intro x member p known
  obtain ⟨p', known', free, -⟩ := (Monitor.mem_mitigations h.named table).mp member
  have same : v.monitor.get? x.policyId = some p := Monitor.get?_evaluate.symm.trans known
  cases known'.symm.trans same
  exact free

theorem Step.tallied {request : Request} (step : v.Step may request w) (works : ∀ op, ¬ may op)
    (own : request.Own) (h : v.ledger.Orderly) (room : ∀ observed, request = .tick observed →
      v.ledger.Room (v.mitigations observed).length) (tallied : v.ledger.Tallied) :
    w.ledger.Tallied := by
  cases request with
  | setPolicy given =>
    obtain ⟨r, step⟩ := step
    cases step with
    | refused => exact tallied
    | registered id monitor accepted =>
      intro i q known
      rcases Monitor.get?_of_insert accepted known with rfl | known
      · exact .fresh given i
      · exact tallied i q known
  | deletePolicy id =>
    obtain ⟨r, step⟩ := step
    cases step with
    | unknown | halted => exact tallied
    | deleted p known firewall steps =>
      exact fun i q known => tallied i q (Monitor.get?_of_erase known)
  | tick observed =>
    obtain ⟨n, step⟩ := step
    exact step.tallied works h own (room observed rfl) tallied
  | setRule | deleteRule => cases own

end Snapshot

theorem run_tallied (calls : List Call) (plain : ∀ c ∈ calls, c.Plain) (supplied : Supplied calls) :
    (run calls).snapshot.ledger.Tallied := by
  induction calls using run_induction with
  | first => exact fun id p known => (nomatch known)
  | next before c ih step =>
    obtain ⟨reliable, own⟩ := plain c (by simp)
    refine step.tallied reliable own (run_orderly before) (fun observed same => ?_) ?_
    · obtain ⟨request, faults⟩ := c
      cases same
      exact supplied before [] observed faults rfl
    · exact ih (fun d member => plain d (List.mem_append_left _ member)) supplied.of_concat

end EdgeControl.Flood
