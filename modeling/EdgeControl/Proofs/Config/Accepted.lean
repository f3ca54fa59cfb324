import EdgeControl.Config
import EdgeControl.Proofs.Except

/-!
What has been checked of a configuration that is accepted. Fields are named only where a check
fails, so a rule or a policy that is fine under one name is fine under any other, and describes the
same.
-/
namespace EdgeControl

namespace Config

theorem about_eq_ok {ε α : Type} {field : String} {message : ε → String} {x : Except ε α} {a : α} :
    ConfigError.about field message x = .ok a ↔ x = .ok a :=
  mapError_eq_ok

theorem checkCount_eq_ok {field : String} {count max : Nat} :
    checkCount field count max = .ok () ↔ count ≤ max := by
  unfold checkCount
  split
  · rename_i exceeds
    simp [Nat.not_le.mpr exceeds]
  · rename_i within
    simp [Nat.le_of_not_lt within]

namespace Rule

variable {r : Rule} {rule : Firewall.Rule} {field : String}

def Describes (r : Rule) (rule : Firewall.Rule) : Prop := ∀ field, r.toRule field = .ok rule

theorem portsOf_ok {text : Option String} {ports : PortRange}
    (read : portsOf field text = .ok ports) (field' : String) :
    portsOf field' text = .ok ports := by
  cases text with
  | none => exact read
  | some s => exact about_eq_ok.mpr (about_eq_ok.mp read)

theorem describes_of_toRule (read : r.toRule field = .ok rule) :
    r.Describes rule ∧ rule.validate = .ok () := by
  simp only [toRule, bind_eq_ok, mapError_eq_ok, about_eq_ok] at read
  obtain ⟨network, hnetwork, protocol, hprotocol, src, hsrc, dst, hdst, ⟨⟩, valid, made⟩ := read
  cases made
  refine ⟨fun field' => ?_, valid⟩
  simp only [toRule, bind_eq_ok, mapError_eq_ok, about_eq_ok]
  exact ⟨network, hnetwork, protocol, hprotocol, src, portsOf_ok hsrc _, dst, portsOf_ok hdst _,
    (), valid, rfl⟩

end Rule

namespace Policy

variable {p : Policy} {policy : Flood.Policy} {field : String}

def Describes (p : Policy) (policy : Flood.Policy) : Prop := ∀ field, p.toPolicy field = .ok policy

theorem flag_ok {text : Option String} {flag : Option TcpFlag}
    (read : text.mapM (fun s => ConfigError.about field ProtocolError.message
      (TcpFlag.ofString s)) = .ok flag) (field' : String) :
    text.mapM (fun s => ConfigError.about field' ProtocolError.message
      (TcpFlag.ofString s)) = .ok flag := by
  cases text with
  | none => exact read
  | some s =>
    rw [Option.mapM_some, map_eq_pure_bind, bind_eq_ok] at read ⊢
    obtain ⟨f, known, same⟩ := read
    exact ⟨f, about_eq_ok.mpr (about_eq_ok.mp known), same⟩

theorem describes_of_toPolicy (read : p.toPolicy field = .ok policy) :
    p.Describes policy ∧ policy.validate = .ok () := by
  simp only [toPolicy, bind_eq_ok, about_eq_ok] at read
  obtain ⟨protocol, hprotocol, flag, hflag, ⟨⟩, valid, made⟩ := read
  cases made
  refine ⟨fun field' => ?_, valid⟩
  simp only [toPolicy, bind_eq_ok, about_eq_ok]
  exact ⟨protocol, hprotocol, flag, flag_ok hflag _, (), valid, rfl⟩

end Policy

structure Accepted (c : Config) : Prop where
  device : (Text.trim c.device.toList).isEmpty = false
  vip : c.vip.isUnicast = true
  ruleCount : c.rules.length ≤ maxRules
  policyCount : c.policies.length ≤ maxPolicies
  backendCount : c.backends.length ≤ maxBackends
  tracking : c.tracking.validate = .ok ()
  probeTimeout : c.probeTimeoutMs ≠ 0
  backends : ∀ b ∈ c.backends, b.validate = .ok ()
  rules : ∀ r ∈ c.rules, ∃ rule, r.Describes rule ∧ rule.validate = .ok ()
  policies : ∀ p ∈ c.policies, ∃ policy, p.Describes policy ∧ policy.validate = .ok ()

theorem ruleAt_ok {r : Rule} {i : Nat} :
    (∃ rule, ruleAt r i = .ok rule) ↔ ∃ rule, r.Describes rule ∧ rule.validate = .ok () := by
  constructor
  · rintro ⟨rule, read⟩
    exact ⟨rule, Rule.describes_of_toRule read⟩
  · rintro ⟨rule, described, -⟩
    exact ⟨rule, described _⟩

theorem policyAt_ok {p : Policy} {i : Nat} :
    (∃ policy, policyAt p i = .ok policy) ↔
      ∃ policy, p.Describes policy ∧ policy.validate = .ok () := by
  constructor
  · rintro ⟨policy, read⟩
    exact ⟨policy, Policy.describes_of_toPolicy read⟩
  · rintro ⟨policy, described, -⟩
    exact ⟨policy, described _⟩

theorem forall_mem_zipIdx {α : Type} {items : List α} {p : α → Prop} :
    (∀ x ∈ items.zipIdx, p x.1) ↔ ∀ item ∈ items, p item := by
  have numbered : items.zipIdx.map Prod.fst = items := List.zipIdx_map_fst 0 items
  rw [← List.forall_mem_map, numbered]

theorem validate_eq_ok {c : Config} : c.validate = .ok () ↔ c.Accepted := by
  unfold validate
  rw [unless_eq_ok, unless_eq_ok]
  simp only [check_bind_eq_ok, checkCount_eq_ok, about_eq_ok]
  rw [unless_eq_ok]
  simp only [check_bind_eq_ok, forIn_eq_ok, about_eq_ok, discard_eq_ok, ruleAt_ok, policyAt_ok,
    Bool.not_eq_true, Bool.not_eq_false']
  constructor
  · rintro ⟨device, vip, ruleCount, policyCount, backendCount, tracking, probeTimeout, backends,
      rules, policies, -⟩
    exact ⟨device, vip, ruleCount, policyCount, backendCount, tracking, probeTimeout,
      forall_mem_zipIdx.mp backends, forall_mem_zipIdx.mp rules, forall_mem_zipIdx.mp policies⟩
  · intro h
    exact ⟨h.device, h.vip, h.ruleCount, h.policyCount, h.backendCount, h.tracking,
      h.probeTimeout,
      forall_mem_zipIdx.mpr h.backends, forall_mem_zipIdx.mpr h.rules,
      forall_mem_zipIdx.mpr h.policies, rfl⟩

end Config
end EdgeControl
