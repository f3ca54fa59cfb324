import EdgeControl.Proofs.Firewall.Run
import EdgeControl.Proofs.Flood.Operations
import Mathlib.Data.List.Induction

/-!
Runs of a flood service on tables in memory: policies set and deleted, passes over the counters,
and rules that the operator sets and deletes on the shared firewall, in any order. Any operation of
the host may fail during a call.
-/
namespace EdgeControl.Flood

inductive Request where
  | setPolicy (policy : Policy)
  | deletePolicy (id : UInt32)
  /-- A pass over the counters, which read as the given list. -/
  | tick (observed : List (CounterKey × UInt64))
  /-- The operator's, as is the next one. -/
  | setRule (rule : Firewall.Rule)
  | deleteRule (id : UInt32)

structure Call where
  request : Request
  faults : Faults := .none

namespace Service

def outcome {α : Type} (s : Service Memory) (faults : Faults) (act : Action (Service Memory) α) :
    Outcome (Service Memory) α :=
  act.outcome {s with firewall := {s.firewall with base := {s.firewall.base with faults}}} #[]

variable (s : Service Memory) (faults : Faults)

theorem settingPolicy (given : Policy) : s.snapshot.SettingPolicy given
    (s.outcome faults (setPolicy given)).answer
    (s.outcome faults (setPolicy given)).state.snapshot :=
  setPolicy_ensures {s with firewall := {s.firewall with base := {s.firewall.base with faults}}}
    given #[]

theorem deletingPolicy (id : UInt32) : s.snapshot.DeletingPolicy faults.MayFail id
    (s.outcome faults (deletePolicy id)).answer
    (s.outcome faults (deletePolicy id)).state.snapshot :=
  deletePolicy_ensures {s with firewall := {s.firewall with base := {s.firewall.base with faults}}}
    id #[]

theorem ticking (observed : List (CounterKey × UInt64)) :
    ∃ n, (s.outcome faults (tickOn observed)).answer = .ok n ∧
      s.snapshot.Ticking faults.MayFail observed n
        (s.outcome faults (tickOn observed)).state.snapshot :=
  tickOn_ensures {s with firewall := {s.firewall with base := {s.firewall.base with faults}}}
    observed #[]

def start : Service Memory := {firewall := {base := ∅}}

end Service

open Service

def Call.after (c : Call) (s : Service Memory) : Service Memory :=
  match c.request with
  | .setPolicy given => (s.outcome c.faults (setPolicy given)).state
  | .deletePolicy id => (s.outcome c.faults (deletePolicy id)).state
  | .tick observed => (s.outcome c.faults (tickOn observed)).state
  | .setRule rule => (s.outcome c.faults (onFirewall (Firewall.Service.setRule rule))).state
  | .deleteRule id => (s.outcome c.faults (onFirewall (Firewall.Service.deleteRule id))).state

def Snapshot.Step (may : Operation → Prop) (v : Snapshot) : Request → Snapshot → Prop
  | .setPolicy given, w => ∃ r, v.SettingPolicy given r w
  | .deletePolicy id, w => ∃ r, v.DeletingPolicy may id r w
  | .tick observed, w => ∃ n, v.Ticking may observed n w
  | .setRule rule, w => ∃ r, v.firewall.Setting may rule r w.firewall ∧ w.monitor = v.monitor
  | .deleteRule id, w => ∃ r, v.firewall.Deleting may id r w.firewall ∧ w.monitor = v.monitor

theorem Call.step (c : Call) (s : Service Memory) :
    s.snapshot.Step c.faults.MayFail c.request (c.after s).snapshot := by
  unfold Call.after
  cases c.request with
  | setPolicy given => exact ⟨_, s.settingPolicy c.faults given⟩
  | deletePolicy id => exact ⟨_, s.deletingPolicy c.faults id⟩
  | tick observed =>
    obtain ⟨n, -, step⟩ := s.ticking c.faults observed
    exact ⟨n, step⟩
  | setRule rule => exact ⟨_, s.firewall.setting c.faults rule, rfl⟩
  | deleteRule id => exact ⟨_, s.firewall.deleting c.faults id, rfl⟩

def run (calls : List Call) : Service Memory := calls.foldl (fun s c => c.after s) .start

@[simp] theorem run_concat (calls : List Call) (c : Call) :
    run (calls ++ [c]) = c.after (run calls) := List.foldl_append

theorem run_induction {motive : List Call → Prop} (calls : List Call) (first : motive [])
    (next : ∀ before c, motive before → (run before).snapshot.Step c.faults.MayFail c.request
      (run (before ++ [c])).snapshot → motive (before ++ [c])) : motive calls := by
  -- The last call of a run is the first to go.
  induction calls using List.reverseRecOn with
  | nil => exact first
  | append_singleton before c ih =>
    refine next before c ih ?_
    rw [run_concat]
    exact c.step (run before)

/-! ### One source and one policy -/

namespace Sample

def source : Ipv4 := .ofOctets 10 0 0 9

def policy : Policy := {protocol := .icmp, limit := 100}

def counted (count : UInt64) : List (CounterKey × UInt64) :=
  [({address := source.word, protocol := 1, flag := 0}, count)]

end Sample
end EdgeControl.Flood
