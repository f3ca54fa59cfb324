import EdgeControl.Flood.Monitor
import EdgeControl.Proofs.Table
import Mathlib.Data.List.Nodup

/-!
What the flood monitor makes of a reading of the counters: it remembers every count, and asks for
the mitigations that are due. The policies stay as they are until a mitigation is recorded.
-/
namespace EdgeControl.Flood

namespace Policy

def counter (p : Policy) (source : Ipv4) : CounterKey where
  address := source.word
  protocol := p.protocol.number.toUInt8
  flag := p.flagBits

def credit (p : Policy) (ruleId : UInt32) (source : Ipv4) : Policy := {p with
  ruleIds := p.ruleIds ++ [ruleId]
  blocked := p.blocked.insert source
  status := .triggered}

def fresh (p : Policy) (id : UInt32) : Policy :=
  {p with id, status := .notTriggered, ruleIds := [], blocked := ∅}

end Policy

/-- A counter of a known protocol is the one of its source for exactly the policies that watch
it. -/
theorem Policy.watches_iff {p : Policy} {protocol : Protocol} {key : CounterKey}
    (known : Protocol.ofNumber key.protocol.toUInt32 = .ok protocol) (padded : key.padding = 0) :
    p.watches protocol key = true ↔ key = p.counter key.source := by
  have number : key.protocol.toUInt32 = protocol.number := Protocol.ofNumber_eq_ok_iff.mp known
  rw [watches, Bool.and_eq_true, beq_iff_eq, beq_iff_eq]
  constructor
  · rintro ⟨rfl, flag⟩
    have address : key.source.word = key.address := Ipv4.word_ofWord key.address
    have protocol : p.protocol.number.toUInt8 = key.protocol := by
      rw [← number, UInt8.toUInt8_toUInt32]
    rw [counter, address, protocol, flag, ← padded]
  · intro same
    have protocol_eq : key.protocol = p.protocol.number.toUInt8 := congrArg CounterKey.protocol same
    have flag_eq : key.flag = p.flagBits := congrArg CounterKey.flag same
    refine ⟨?_, flag_eq.symm⟩
    have own : Protocol.ofNumber key.protocol.toUInt32 = .ok p.protocol := by
      rw [protocol_eq]
      cases p.protocol <;> rfl
    rw [known] at own
    exact (Except.ok.inj own).symm

namespace Monitor

variable {m monitor : Monitor} {given p q : Policy} {id i ruleId : UInt32} {source : Ipv4}
  {key : CounterKey} {count : UInt64} {observed : List (CounterKey × UInt64)} {x : Mitigation}

/-! ### The policies -/

@[simp] theorem get?_erase : (m.erase id).get? i = if id = i then none else m.get? i :=
  Table.getElem?_erase

theorem get?_of_erase (known : (m.erase id).get? i = some p) : m.get? i = some p := by
  rw [get?_erase] at known
  split at known
  · cases known
  · exact known

theorem insert_ok (accepted : m.insert given = .ok (id, monitor)) :
    given.validate = .ok () ∧ id = m.nextId ∧ monitor.nextId = m.nextId + 1 ∧
      monitor.counts = m.counts ∧
      ∀ i, monitor.get? i = if m.nextId = i then some (given.fresh i) else m.get? i := by
  unfold insert at accepted
  cases valid : given.validate with
  | error e =>
    rw [valid] at accepted
    cases accepted
  | ok u =>
    rw [valid] at accepted
    cases accepted
    refine ⟨rfl, rfl, rfl, rfl, fun i => ?_⟩
    by_cases same : m.nextId = i
    · subst same
      exact Std.ExtTreeMap.getElem?_insert_self.trans (if_pos rfl).symm
    · exact Table.getElem?_insert.trans ((if_neg same).trans (if_neg same).symm)

theorem get?_of_insert (accepted : m.insert given = .ok (id, monitor))
    (known : monitor.get? i = some p) : p = given.fresh i ∨ m.get? i = some p := by
  obtain ⟨-, -, -, -, get⟩ := insert_ok accepted
  rw [get] at known
  split at known
  · exact .inl (Option.some.inj known).symm
  · exact .inr known

theorem insert_eq_error {e : PolicyError} (m' : Monitor) (invalid : m.insert given = .error e) :
    m'.insert given = .error e := by
  unfold insert at *
  cases valid : given.validate with
  | error _ =>
    rw [valid] at invalid
    cases invalid
    rfl
  | ok u =>
    rw [valid] at invalid
    cases invalid

theorem record_eq_ok_iff : m.record id ruleId source = .ok monitor ↔ ∃ p, m.get? id = some p ∧
    monitor = {m with policies := m.policies.insert id (p.credit ruleId source)} := by
  unfold record
  cases m.get? id with
  | none => exact ⟨fun h => (nomatch h), fun ⟨_, h, _⟩ => (nomatch h)⟩
  | some p => exact ⟨fun h => by cases h; exact ⟨p, rfl, rfl⟩, fun ⟨_, h, e⟩ => by cases h; rw [e]; rfl⟩

theorem get?_record (recorded : m.record id ruleId source = .ok monitor) (i : UInt32) :
    monitor.get? i =
      (m.get? i).map fun p => if id = i then p.credit ruleId source else p := by
  obtain ⟨p, known, rfl⟩ := record_eq_ok_iff.mp recorded
  change (m.policies.insert id _)[i]? = _
  rw [Table.getElem?_insert]
  by_cases same : id = i
  · subst same
    rw [known, if_pos rfl, Option.map_some, if_pos rfl]
  · simp only [if_neg same, Option.map_id']
    rfl

theorem record_frame (recorded : m.record id ruleId source = .ok monitor) :
    monitor.counts = m.counts ∧ monitor.nextId = m.nextId := by
  obtain ⟨p, -, rfl⟩ := record_eq_ok_iff.mp recorded
  exact ⟨rfl, rfl⟩

/-! ### One counter -/

theorem observe_snd : (m.observe key count).2 = {m with counts := m.counts.insert key count} := by
  unfold observe
  dsimp only
  split
  · rfl
  · rfl

theorem observe_congr (policies : monitor.policies = m.policies)
    (last : monitor.lastCount? key = m.lastCount? key) :
    (monitor.observe key count).1 = (m.observe key count).1 := by
  unfold observe growth toList
  dsimp only
  rw [policies, last]
  split
  · rfl
  · rfl

def Named (m : Monitor) : Prop := ∀ id p, m.get? id = some p → p.id = id

/-- A mitigation that a counter gives a reason for. -/
structure Wanted (m : Monitor) (key : CounterKey) (count : UInt64) (x : Mitigation) (p : Policy) :
    Prop where
  known : m.get? x.policyId = some p
  source : x.source = key.source
  rule : x.rule = .blockHost x.source p.protocol
  protocol : Protocol.ofNumber key.protocol.toUInt32 = .ok p.protocol
  watches : p.watches p.protocol key = true
  exceeds : p.limit.toNat < m.growth key count
  free : x.source ∉ p.blocked

theorem Wanted.counter (wanted : m.Wanted key count x p) (padded : key.padding = 0) :
    key = p.counter x.source := by
  rw [wanted.source]
  exact (Policy.watches_iff wanted.protocol padded).mp wanted.watches

theorem mem_observe (named : m.Named) :
    x ∈ (m.observe key count).1.mitigations ↔ ∃ p, m.Wanted key count x p := by
  unfold observe
  dsimp only
  cases known : Protocol.ofNumber key.protocol.toUInt32 with
  | error e =>
    refine ⟨fun member => (nomatch member), fun ⟨p, wanted⟩ => ?_⟩
    have protocol := wanted.protocol
    rw [known] at protocol
    cases protocol
  | ok protocol =>
    have asks (p : Policy) : mitigation? protocol key (m.growth key count) p = some x ↔
        (p.watches protocol key = true ∧ p.limit.toNat < m.growth key count ∧
          key.source ∉ p.blocked) ∧ ⟨p.id, key.source, .blockHost key.source protocol⟩ = x := by
      simp only [mitigation?, Option.ite_none_right_eq_some, Bool.and_eq_true, decide_eq_true_eq,
        Bool.not_eq_true', Option.some.injEq, and_assoc, Std.ExtTreeSet.mem_iff_contains,
        Bool.not_eq_true]
    rw [List.mem_filterMap]
    constructor
    · rintro ⟨p, listed, asked⟩
      obtain ⟨⟨watches, exceeds, free⟩, rfl⟩ := (asks p).mp asked
      obtain ⟨id, registered⟩ := (Table.mem_values m.policies).mp listed
      have own : p.protocol = protocol := (beq_iff_eq.mp (Bool.and_eq_true_iff.mp watches).1)
      subst own
      refine ⟨p, ?_, rfl, rfl, known, watches, exceeds, free⟩
      rw [named id p registered]
      exact registered
    · rintro ⟨p, wanted⟩
      have same := wanted.protocol
      rw [known] at same
      cases same
      refine ⟨p, (Table.mem_values m.policies).mpr ⟨_, wanted.known⟩, (asks p).mpr ⟨⟨wanted.watches,
        wanted.exceeds, wanted.source ▸ wanted.free⟩, ?_⟩⟩
      rw [named _ p wanted.known, ← wanted.source, ← wanted.rule]

theorem observe_ascending (named : m.Named) :
    (m.observe key count).1.mitigations.Pairwise fun x y => x.policyId < y.policyId := by
  unfold observe
  dsimp only
  split
  · exact .nil
  · rw [List.pairwise_filterMap]
    have ascending : m.toList.Pairwise fun p q => p.id < q.id :=
      (Table.pairwise_values named).imp Std.compare_eq_lt.mp
    refine ascending.imp fun {p q} below x asked y other => ?_
    cases (Option.ite_none_right_eq_some.mp asked).2
    cases (Option.ite_none_right_eq_some.mp other).2
    exact below

/-! ### All counters -/

variable {entry : CounterKey × UInt64} {rest : List (CounterKey × UInt64)}

theorem evaluate_cons_snd : (m.evaluate (entry :: rest)).2 =
    ((m.observe entry.1 entry.2).2.evaluate rest).2 := rfl

theorem mitigations_cons : (m.evaluate (entry :: rest)).1.mitigations =
    (m.observe entry.1 entry.2).1.mitigations ++
      ((m.observe entry.1 entry.2).2.evaluate rest).1.mitigations := rfl

theorem policies_evaluate (m : Monitor) (observed : List (CounterKey × UInt64)) :
    (m.evaluate observed).2.policies = m.policies := by
  induction observed generalizing m with
  | nil => rfl
  | cons entry rest ih => rw [evaluate_cons_snd, ih, observe_snd]

theorem nextId_evaluate (m : Monitor) (observed : List (CounterKey × UInt64)) :
    (m.evaluate observed).2.nextId = m.nextId := by
  induction observed generalizing m with
  | nil => rfl
  | cons entry rest ih => rw [evaluate_cons_snd, ih, observe_snd]

@[simp] theorem get?_evaluate : (m.evaluate observed).2.get? id = m.get? id :=
  congrArg (·[id]?) (policies_evaluate m observed)

def Founded (m : Monitor) (x : Mitigation) : Prop :=
  ∃ p, m.get? x.policyId = some p ∧ x.rule = .blockHost x.source p.protocol

theorem Founded.recordable (h : m.Founded x) (ruleId : UInt32) :
    ∃ monitor, m.record x.policyId ruleId x.source = .ok monitor := by
  obtain ⟨p, known, -⟩ := h
  exact ⟨_, record_eq_ok_iff.mpr ⟨p, known, rfl⟩⟩

theorem Founded.recorded (h : m.Founded x) (recorded : m.record id ruleId source = .ok monitor) :
    monitor.Founded x := by
  obtain ⟨p, known, rule⟩ := h
  have after := get?_record recorded x.policyId
  rw [known, Option.map_some] at after
  refine ⟨_, after, rule.trans ?_⟩
  split
  · rfl
  · rfl

theorem evaluate_founded (named : m.Named) (member : x ∈ (m.evaluate observed).1.mitigations) :
    (m.evaluate observed).2.Founded x := by
  suffices m.Founded x by
    obtain ⟨p, known, rule⟩ := this
    exact ⟨p, get?_evaluate.trans known, rule⟩
  induction observed generalizing m with
  | nil => cases member
  | cons entry rest ih =>
    rw [mitigations_cons] at member
    rcases List.mem_append.mp member with first | others
    · obtain ⟨p, wanted⟩ := (mem_observe named).mp first
      exact ⟨p, wanted.known, wanted.rule⟩
    · have same (id : UInt32) : (m.observe entry.1 entry.2).2.get? id = m.get? id := by
        rw [observe_snd]
        rfl
      obtain ⟨p, known, rule⟩ := ih (fun id p known => named id p (same id ▸ known)) others
      exact ⟨p, same _ ▸ known, rule⟩

theorem lastCount?_observe (i : CounterKey) : (m.observe key count).2.lastCount? i =
    if key = i then some count else m.lastCount? i := by
  rw [observe_snd]
  exact Table.getElem?_insert

theorem lastCount?_evaluate_of_absent (absent : key ∉ observed.map Prod.fst) :
    (m.evaluate observed).2.lastCount? key = m.lastCount? key := by
  induction observed generalizing m with
  | nil => rfl
  | cons entry rest ih =>
    rw [List.map_cons, List.mem_cons, not_or] at absent
    rw [evaluate_cons_snd, ih absent.2, lastCount?_observe, if_neg (Ne.symm absent.1)]

/-- What can be read at once: one count for each counter, as the data plane writes them. -/
structure IsTable (observed : List (CounterKey × UInt64)) : Prop where
  distinct : (observed.map Prod.fst).Nodup
  padded : ∀ entry ∈ observed, entry.1.padding = 0

theorem lastCount?_evaluate_of_mem (distinct : (observed.map Prod.fst).Nodup)
    (member : (key, count) ∈ observed) :
    (m.evaluate observed).2.lastCount? key = some count := by
  induction observed generalizing m with
  | nil => cases member
  | cons entry rest ih =>
    rw [List.map_cons, List.nodup_cons] at distinct
    rcases List.mem_cons.mp member with rfl | later
    · rw [evaluate_cons_snd, lastCount?_evaluate_of_absent distinct.1, lastCount?_observe,
        if_pos rfl]
    · exact ih distinct.2 later

theorem mitigations_evaluate (distinct : (observed.map Prod.fst).Nodup) :
    (m.evaluate observed).1.mitigations =
      observed.flatMap fun entry => (m.observe entry.1 entry.2).1.mitigations := by
  induction observed generalizing m with
  | nil => rfl
  | cons entry rest ih =>
    rw [List.map_cons, List.nodup_cons] at distinct
    rw [mitigations_cons, ih distinct.2, List.flatMap_cons]
    refine congrArg (_ ++ ·) ?_
    -- No later counter is the one that was just remembered.
    refine List.flatMap_congr fun other member => congrArg Evaluation.mitigations ?_
    have apart : entry.1 ≠ other.1 := fun same =>
      distinct.1 (same ▸ List.mem_map_of_mem member)
    apply observe_congr
    · rw [observe_snd]
    · rw [lastCount?_observe, if_neg apart]

/-- A mitigation that a reading gives a reason for: the counter of a source grew by more than a
policy allows, and the policy has not blocked the source. -/
def Due (m : Monitor) (observed : List (CounterKey × UInt64)) (x : Mitigation) : Prop :=
  ∃ p, m.get? x.policyId = some p ∧ x.source ∉ p.blocked ∧
    x.rule = .blockHost x.source p.protocol ∧
    ∃ count, (p.counter x.source, count) ∈ observed ∧
      p.limit.toNat < count.toNat - ((m.lastCount? (p.counter x.source)).getD 0).toNat

theorem mem_mitigations (named : m.Named) (table : IsTable observed) :
    x ∈ (m.evaluate observed).1.mitigations ↔ m.Due observed x := by
  rw [mitigations_evaluate table.distinct, List.mem_flatMap]
  constructor
  · rintro ⟨⟨key, count⟩, member, listed⟩
    obtain ⟨p, wanted⟩ := (mem_observe named).mp listed
    cases wanted.counter (table.padded _ member)
    exact ⟨p, wanted.known, wanted.free, wanted.rule, count, member, wanted.exceeds⟩
  · rintro ⟨p, known, free, rule, count, member, exceeds⟩
    have source : (p.counter x.source).source = x.source := Ipv4.ofWord_word x.source
    have protocol : Protocol.ofNumber (p.counter x.source).protocol.toUInt32 = .ok p.protocol :=
      Protocol.ofNumber_eq_ok_iff.mpr (by unfold Policy.counter; cases p.protocol <;> rfl)
    refine ⟨(p.counter x.source, count), member, (mem_observe named).mpr
      ⟨p, known, source.symm, rule, protocol, ?_, exceeds, free⟩⟩
    exact (Policy.watches_iff protocol rfl).mpr (by rw [source])

/-- No policy asks twice for the same source. -/
theorem mitigations_once (named : m.Named) (table : IsTable observed) :
    ((m.evaluate observed).1.mitigations.map fun x => (x.policyId, x.source)).Nodup := by
  rw [mitigations_evaluate table.distinct, List.map_flatMap, List.nodup_flatMap]
  constructor
  · intro entry _
    have ascending : (m.observe entry.1 entry.2).1.mitigations.Pairwise fun x y =>
        x.policyId < y.policyId := observe_ascending named
    rw [List.Nodup, List.pairwise_map]
    exact ascending.imp fun below same => UInt32.ne_of_lt below (Prod.ext_iff.mp same).1
  · have apart := List.pairwise_map.mp table.distinct
    refine apart.imp_of_mem fun {entry other} member member' differ => ?_
    refine List.disjoint_left.mpr fun {pair} first second => ?_
    obtain ⟨x, listed, rfl⟩ := List.mem_map.mp first
    obtain ⟨y, listed', same⟩ := List.mem_map.mp second
    obtain ⟨policy, source⟩ := Prod.mk.injEq .. ▸ same
    obtain ⟨p, wanted⟩ := (mem_observe named).mp listed
    obtain ⟨q, wanted'⟩ := (mem_observe named).mp listed'
    have known := wanted.known
    rw [← policy, wanted'.known] at known
    cases known
    -- The policy and the source tell the counter.
    apply differ
    rw [wanted.counter (table.padded _ member), wanted'.counter (table.padded _ member')]
    exact congrArg p.counter source.symm

end Monitor
end EdgeControl.Flood
