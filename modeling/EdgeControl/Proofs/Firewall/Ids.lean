import EdgeControl.Proofs.Firewall.Leftovers

/-!
The ids that a run of a firewall gives out. Every rule that passes the checks uses up the next id,
whether it can be installed or not, until none is left; a rule that does not pass changes nothing.
So ids are never given twice, and the images that the matchers have of them are exact.
-/
namespace EdgeControl.Firewall

def Call.valid (c : Call) : Bool :=
  match c.request with
  | .setRule given => given.validate.isOk
  | .deleteRule _ | .countDrops _ => false

namespace Registry

variable {r : Registry} {given : Rule}

theorem prepare_invalid {e : RuleError} (invalid : given.validate = .error e) :
    r.prepare given = .error e := by
  rw [prepare, invalid]
  rfl

theorem prepare_full (valid : given.validate = .ok ()) (full : lastRuleId < r.nextId.toNat) :
    r.prepare given = .error (.idsExhausted lastRuleId) := by
  rw [prepare, valid]
  simp only [bind, Except.bind, if_pos full]
  rfl

end Registry

namespace Service

/-- The rule is refused without asking for anything, and everything stays as it was. -/
structure Refuses (s : Service Memory) (faults : Faults) (given : Rule) (e : RuleError) : Prop where
  answer : (s.outcome faults (setRule given)).answer = .error e.toService
  state : (s.outcome faults (setRule given)).state = {s with base := {s.base with faults}}

theorem refuses_of_prepare {s : Service Memory} {given : Rule} {e : RuleError}
    (refused : s.registry.prepare given = .error e) (faults : Faults) :
    s.Refuses faults given e := by
  let start : Service Memory := {s with base := {s.base with faults}}
  have unchanged : (setRule given).Ensures start fun r t => r = .error e.toService ∧ t = start := by
    refine prepare_ensures start given (fun e' other => ?_) fun rule registry prepared => ?_
    · cases refused.symm.trans other
      exact ⟨rfl, rfl⟩
    · cases refused.symm.trans prepared
  exact ⟨(unchanged #[]).1, (unchanged #[]).2⟩

end Service

namespace Snapshot

variable {may : Operation → Prop} {v w : Snapshot} {given : Rule} {r : Except ServiceError UInt32}

theorem Setting.nextId (step : Setting may v given r w) (valid : given.validate = .ok ())
    (room : v.registry.nextId.toNat ≤ lastRuleId) :
    w.registry.nextId = v.registry.nextId + 1 := by
  cases step with
  | refused e invalid =>
    rw [Registry.prepare_eq valid room] at invalid
    cases invalid
  | unentered rule registry prepared | unlisted rule registry prepared
  | unrecorded rule registry prepared | installed rule registry prepared =>
    obtain ⟨-, rfl, -⟩ := Registry.prepare_ok prepared
    rfl

theorem Deleting.nextId {id : UInt32} {r : Except ServiceError Unit}
    (step : Deleting may v id r w) : w.registry.nextId = v.registry.nextId := by
  rcases step.registry with ⟨_, -, same⟩ | ⟨-, same⟩
  · rw [same]
  · rw [same]
    rfl

end Snapshot

namespace Course

variable {α : Type} {f g : Course → Call → List α} {t : Course} {c : Call} {calls : List Call}

def gathered (f : Course → Call → List α) : Course → List Call → List α
  | _, [] => []
  | t, c :: calls => f t c ++ gathered f (t.after c) calls

theorem gathered_concat :
    t.gathered f (calls ++ [c]) = t.gathered f calls ++ f (calls.foldl after t) c := by
  induction calls generalizing t with
  | nil => simp [gathered]
  | cons d calls ih => simp [gathered, ih]

theorem gathered_sublist (part : ∀ t c, (f t c).Sublist (g t c)) :
    (t.gathered f calls).Sublist (t.gathered g calls) := by
  induction calls generalizing t with
  | nil => exact .slnil
  | cons c calls ih => exact (part t c).append ih

/-- The id that the call uses up, if its rule is given one. -/
def usedBy (t : Course) (c : Call) : List UInt32 :=
  match c.request with
  | .setRule given => ((t.service.registry.prepare given).toOption.map (·.1.id)).toList
  | .deleteRule _ | .countDrops _ => []

def answeredBy (t : Course) (c : Call) : List UInt32 :=
  match c.request with
  | .setRule given =>
    (t.service.outcome c.faults (Service.setRule given)).answer.toOption.toList
  | .deleteRule _ | .countDrops _ => []

def used (calls : List Call) : List UInt32 := start.gathered usedBy calls

def answered (calls : List Call) : List UInt32 := start.gathered answeredBy calls

theorem answeredBy_sublist (t : Course) (c : Call) :
    (t.answeredBy c).Sublist (t.usedBy c) := by
  obtain ⟨request, faults⟩ := c
  cases request with
  | setRule given =>
    have step := t.service.setting faults given
    simp only [answeredBy, usedBy]
    cases answer : (t.service.outcome faults (Service.setRule given)).answer with
    | error e => exact List.nil_sublist _
    | ok id =>
      rw [answer] at step
      obtain ⟨-, prepared, -⟩ := step.succeeded
      rw [show t.service.registry.prepare given = _ from prepared]
      exact .refl _
  | deleteRule id | countDrops counters => exact .slnil

theorem usedBy_cases (t : Course) (c : Call) :
    (c.valid = true ∧ t.service.registry.nextId.toNat ≤ lastRuleId ∧
      t.usedBy c = [t.service.registry.nextId] ∧
      (t.after c).service.registry.nextId = t.service.registry.nextId + 1) ∨
    ((c.valid = true → lastRuleId < t.service.registry.nextId.toNat) ∧ t.usedBy c = [] ∧
      (t.after c).service.registry.nextId = t.service.registry.nextId) := by
  obtain ⟨request, faults⟩ := c
  cases request with
  | setRule given =>
    have refused {e : RuleError} (invalid : t.service.registry.prepare given = .error e) :
        t.usedBy ⟨.setRule given, faults⟩ = [] ∧
          (t.after ⟨.setRule given, faults⟩).service.registry.nextId =
            t.service.registry.nextId := by
      constructor
      · simp only [usedBy, invalid]
        rfl
      · exact congrArg (fun s => s.registry.nextId) (Service.refuses_of_prepare invalid faults).state
    cases valid : given.validate with
    | error e =>
      refine .inr ⟨fun passed => ?_, refused (Registry.prepare_invalid valid)⟩
      simp only [Call.valid, valid] at passed
      cases passed
    | ok u =>
      by_cases room : t.service.registry.nextId.toNat ≤ lastRuleId
      · refine .inl ⟨?_, room, ?_, (t.service.setting faults given).nextId valid room⟩
        · simp only [Call.valid, valid]
          rfl
        · simp only [usedBy, Registry.prepare_eq valid room]
          rfl
      · have full := Nat.lt_of_not_le room
        exact .inr ⟨fun _ => full, refused (Registry.prepare_full valid full)⟩
  | deleteRule id =>
    exact .inr ⟨fun passed => Bool.noConfusion passed, rfl, (t.service.deleting faults id).nextId⟩
  | countDrops counters => exact .inr ⟨fun passed => Bool.noConfusion passed, rfl, rfl⟩

/-- How many ids a run uses up: one for each rule that passes, until all are used up. -/
def countUsed (calls : List Call) : Nat := min (calls.countP Call.valid) lastRuleId

theorem countUsed_lt (calls : List Call) : countUsed calls < UInt32.size :=
  Nat.lt_of_le_of_lt (Nat.min_le_right _ _) (by decide)

theorem run_concat : run (calls ++ [c]) = (run calls).after c := by
  rw [run, List.foldl_append]
  rfl

theorem used_eq (calls : List Call) :
    (run calls).service.registry.nextId.toNat = countUsed calls + 1 ∧
      used calls = firstIds (countUsed calls) := by
  induction calls using List.reverseRecOn with
  | nil => exact ⟨rfl, rfl⟩
  | append_singleton calls c ih =>
    obtain ⟨next, ids⟩ := ih
    have later : used (calls ++ [c]) = firstIds (countUsed calls) ++ (run calls).usedBy c := by
      rw [← ids]
      exact gathered_concat
    have count : (calls ++ [c]).countP Call.valid =
        calls.countP Call.valid + if c.valid then 1 else 0 := by
      rw [List.countP_append, List.countP_singleton]
    rw [run_concat, later]
    rcases usedBy_cases (run calls) c with ⟨passed, room, one, moved⟩ | ⟨full, none, same⟩
    · have more : countUsed (calls ++ [c]) = countUsed calls + 1 := by
        rw [if_pos passed] at count
        unfold countUsed at *
        omega
      have small : (run calls).service.registry.nextId.toNat + 1 < UInt32.size :=
        Nat.lt_of_le_of_lt (Nat.succ_le_succ room) (by decide)
      rw [more, firstIds_succ, one, moved, toNat_succ small, next, ← next, UInt32.ofNat_toNat]
      exact ⟨rfl, rfl⟩
    · have equal : countUsed (calls ++ [c]) = countUsed calls := by
        unfold countUsed at *
        split at count
        · rename_i passed
          have := full passed
          omega
        · omega
      rw [equal, none, same, List.append_nil]
      exact ⟨next, rfl⟩

/-- Setting a rule has put the id that it uses up into the matcher of its network. -/
structure Enlists (t : Course) (c : Call) (network : Network) (id : UInt32) : Prop where
  rule : ∃ given, c.request = .setRule given ∧ given.network = network
  used : t.usedBy c = [id]
  new : ¬ t.service.snapshot.Listed network id
  listed : (t.after c).service.snapshot.Listed network id

theorem enlists_of_listed {network : Network} {id : UInt32} (keyed : t.service.registry.Keyed)
    (new : ¬ t.service.snapshot.Listed network id)
    (listed : (t.after c).service.snapshot.Listed network id) : t.Enlists c network id := by
  obtain ⟨request, faults⟩ := c
  cases request with
  | setRule given =>
    have step := t.service.setting faults given
    obtain ⟨on, rfl, -⟩ := (step.listed keyed listed).resolve_left new
    refine ⟨⟨given, rfl, on⟩, ?_, new, listed⟩
    rcases usedBy_cases t ⟨.setRule given, faults⟩ with ⟨-, -, one, -⟩ | ⟨-, -, same⟩
    · exact one
    · rcases step.uses_id keyed with unchanged | grown
      · exact absurd (unchanged ▸ listed) new
      · exact absurd (same ▸ grown) (UInt32.lt_irrefl _)
  | deleteRule id => exact absurd ((t.service.deleting faults id).listed_of listed) new
  | countDrops counters => exact absurd listed new

theorem run_listed (calls : List Call) {network : Network} {id : UInt32}
    (listed : (run calls).service.snapshot.Listed network id) :
    ∃ before c after, calls = before ++ c :: after ∧ (run before).Enlists c network id := by
  induction calls using List.reverseRecOn with
  | nil =>
    obtain ⟨slot, member, -⟩ := listed
    rw [show (run []).service.snapshot.listing network = [] from Matcher.ids_empty] at member
    cases member
  | append_singleton calls c ih =>
    by_cases earlier : (run calls).service.snapshot.Listed network id
    · obtain ⟨before, d, after, rfl, enlists⟩ := ih earlier
      exact ⟨before, d, after ++ [c], by simp, enlists⟩
    · rw [run_concat] at listed
      exact ⟨calls, c, [], rfl, enlists_of_listed (run_traceable calls).keyed earlier listed⟩

structure Ids (calls : List Call) : Prop where
  used : used calls = firstIds (min (calls.countP Call.valid) lastRuleId)
  ascending : (answered calls).Pairwise (· < ·)
  within : ∀ id ∈ answered calls, 1 ≤ id.toNat ∧ id.toNat ≤ lastRuleId
  new : ∀ faults given id,
    ((run calls).service.outcome faults (Service.setRule given)).answer = .ok id →
      1 ≤ id.toNat ∧ id.toNat ≤ lastRuleId ∧ ∀ earlier ∈ Course.used calls, earlier < id
  invalid : ∀ faults given e, given.validate = .error e →
    (run calls).service.Refuses faults given e
  exhausted : (Course.used calls).length = lastRuleId → ∀ faults given,
    given.validate = .ok () → (run calls).service.Refuses faults given (.idsExhausted lastRuleId)
  /-- A taken slot has the full id of a rule that was put into this matcher. -/
  slots : ∀ network matcher, (run calls).service.base.matchers[network]? = some matcher →
    ∀ slot ∈ matcher.slots, slot ≠ 0 → ∃ before c after, calls = before ++ c :: after ∧
      (run before).Enlists c network slot.toUInt32

/-- In any run, whatever fails, ids are counted up to the last one and never given again. -/
theorem run_ids (calls : List Call) : Ids calls := by
  obtain ⟨next, ids⟩ := used_eq calls
  have room := countUsed_lt calls
  have most : countUsed calls ≤ lastRuleId := Nat.min_le_right _ _
  have part : (answered calls).Sublist (firstIds (countUsed calls)) := by
    rw [← ids]
    exact gathered_sublist answeredBy_sublist
  constructor
  case used => exact ids
  case ascending => exact (firstIds_ascending room).sublist part
  case within =>
    intro id member
    obtain ⟨positive, below⟩ := (mem_firstIds room).mp (part.subset member)
    exact ⟨positive, Nat.le_trans below most⟩
  case new =>
    intro faults given id ok
    have step := (run calls).service.setting faults given
    rw [ok] at step
    obtain ⟨rfl, prepared, -⟩ := step.succeeded
    obtain ⟨-, -, left⟩ := Registry.prepare_ok prepared
    change 1 ≤ (run calls).service.registry.nextId.toNat ∧ _
    refine ⟨by omega, left, fun earlier member => ?_⟩
    rw [ids, mem_firstIds room] at member
    rw [UInt32.lt_iff_toNat_lt]
    change _ < (run calls).service.registry.nextId.toNat
    omega
  case invalid =>
    intro faults given e invalid
    exact Service.refuses_of_prepare (Registry.prepare_invalid invalid) faults
  case exhausted =>
    intro all faults given valid
    rw [ids, length_firstIds] at all
    exact Service.refuses_of_prepare (Registry.prepare_full valid (by omega)) faults
  case slots =>
    intro network matcher found slot member taken
    refine run_listed calls ⟨slot, ?_, rfl⟩
    rw [Snapshot.listing, show (run calls).service.snapshot.matchers[network]? = _ from found,
      Option.getD_some, Matcher.mem_ids]
    exact ⟨member, taken⟩

-- The first rule uses its id up but cannot be recorded.
example : used [Sample.unrecorded, Sample.tcp, ⟨.deleteRule 2, .none⟩, Sample.udp] = [1, 2, 3] ∧
    answered [Sample.unrecorded, Sample.tcp, ⟨.deleteRule 2, .none⟩, Sample.udp] = [2, 3] := by
  decide +kernel

end Course
end EdgeControl.Firewall
