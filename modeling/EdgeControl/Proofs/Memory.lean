import EdgeControl.Memory
import EdgeControl.Proofs.Ensures

/-!
What each operation of a host in memory ensures. An operation that the plan lets fail changes no
table; a removal also fails when the table does not have the key.
-/
namespace EdgeControl

open EdgeControl.Action

def Faults.MayFail (f : Faults) (op : Operation) : Prop := ∃ n, f.plan n op = true

theorem Faults.not_mayFail_none (op : Operation) : ¬ Faults.none.MayFail op := by
  rintro ⟨n, h⟩
  exact Bool.false_ne_true h

namespace Memory

variable {m : Memory}

def asked (m : Memory) : Memory := {m with faults := m.faults.next}

/-- The plan says whether an operation fails that is asked for now. -/
theorem ensures_ask_now {op : Operation} {post : Except ServiceError Unit → Memory → Prop}
    (fails : m.faults.fails op = true → post (.error op.failure) m.asked)
    (works : m.faults.fails op = false → post (.ok ()) m.asked) :
    (ask op).Ensures m post := by
  refine .get_bind (.set_bind ?_)
  cases failing : m.faults.fails op with
  | true => exact .throw (fails failing)
  | false => exact .pure (works failing)

theorem ensures_ask {op : Operation} {post : Except ServiceError Unit → Memory → Prop}
    (fails : m.faults.MayFail op → post (.error op.failure) m.asked)
    (works : post (.ok ()) m.asked) :
    (ask op).Ensures m post :=
  ensures_ask_now (fun failing => fails ⟨_, failing⟩) fun _ => works

theorem ensures_remove {op : Operation} {present : Memory → Bool} {without : Memory → Memory}
    {table : String} {post : Except ServiceError Unit → Memory → Prop}
    (fails : m.faults.MayFail op → post (.error op.failure) m.asked)
    (absent : present m.asked = false → post (.error (missing table)) m.asked)
    (works : present m.asked = true → post (.ok ()) (without m.asked)) :
    (do
      ask op
      let m ← get
      if present m then set (without m) else throw (missing table) : Action Memory Unit).Ensures m
        post := by
  refine .bind (ensures_ask fails (.get_bind ?_))
  split
  · rename_i found
    exact fun _ => works found
  · rename_i gone
    exact .throw (absent (Bool.eq_false_iff.mpr gone))

section Firewall

variable {post : Except ServiceError Unit → Memory → Prop} {network : Network}
  {entry : Firewall.RuleEntry} {id : UInt32}

theorem ensures_insertRule
    (fails : m.faults.MayFail .insertRule → post (.error Operation.insertRule.failure) m.asked)
    (works : post (.ok ()) {m.asked with rules := m.rules.insert network entry}) :
    (FirewallTables.insertRule network entry : Action Memory Unit).Ensures m post :=
  .bind (ensures_ask fails (.modify works))

theorem ensures_removeRule
    (fails : m.faults.MayFail .removeRule → post (.error Operation.removeRule.failure) m.asked)
    (absent : m.rules.contains network = false → post (.error (missing "rules")) m.asked)
    (works : m.rules.contains network = true →
      post (.ok ()) {m.asked with rules := m.rules.erase network}) :
    (FirewallTables.removeRule network : Action Memory Unit).Ensures m post :=
  ensures_remove fails absent works

theorem ensures_matcher? {post : Except ServiceError (Option Firewall.Matcher) → Memory → Prop}
    (fails : m.faults.MayFail .matcher → post (.error Operation.matcher.failure) m.asked)
    (works : post (.ok m.matchers[network]?) m.asked) :
    (FirewallTables.matcher? network : Action Memory _).Ensures m post :=
  .bind (ensures_ask fails (.get_bind (.pure works)))

theorem ensures_setMatcher {matcher : Firewall.Matcher}
    (fails : m.faults.MayFail .setMatcher → post (.error Operation.setMatcher.failure) m.asked)
    (works : post (.ok ()) {m.asked with matchers := m.matchers.insert network matcher}) :
    (FirewallTables.setMatcher network matcher : Action Memory Unit).Ensures m post :=
  .bind (ensures_ask fails (.modify works))

theorem ensures_insertAdvRule
    (fails : m.faults.MayFail .insertAdvRule →
      post (.error Operation.insertAdvRule.failure) m.asked)
    (works : post (.ok ()) {m.asked with advRules := m.advRules.insert id entry}) :
    (FirewallTables.insertAdvRule id entry : Action Memory Unit).Ensures m post :=
  .bind (ensures_ask fails (.modify works))

theorem ensures_removeAdvRule
    (fails : m.faults.MayFail .removeAdvRule →
      post (.error Operation.removeAdvRule.failure) m.asked)
    (absent : m.advRules.contains id = false → post (.error (missing "adv_rules")) m.asked)
    (works : m.advRules.contains id = true →
      post (.ok ()) {m.asked with advRules := m.advRules.erase id}) :
    (FirewallTables.removeAdvRule id : Action Memory Unit).Ensures m post :=
  ensures_remove fails absent works

theorem ensures_dropCount? {post : Except ServiceError (Option UInt64) → Memory → Prop}
    (fails : m.faults.MayFail .dropCount → post (.error Operation.dropCount.failure) m.asked)
    (works : post (.ok m.dropCounters[id]?) m.asked) :
    (FirewallTables.dropCount? id : Action Memory _).Ensures m post :=
  .bind (ensures_ask fails (.get_bind (.pure works)))

theorem ensures_removeDropCounter
    (fails : m.faults.MayFail .removeDropCounter →
      post (.error Operation.removeDropCounter.failure) m.asked)
    (absent : m.dropCounters.contains id = false →
      post (.error (missing "drop_counter")) m.asked)
    (works : m.dropCounters.contains id = true →
      post (.ok ()) {m.asked with dropCounters := m.dropCounters.erase id}) :
    (FirewallTables.removeDropCounter id : Action Memory Unit).Ensures m post :=
  ensures_remove fails absent works

end Firewall

section Balancer

variable {post : Except ServiceError Unit → Memory → Prop}

theorem ensures_setFrontend {info : Balancer.FrontendInfo}
    (fails : m.faults.MayFail .setFrontend → post (.error Operation.setFrontend.failure) m.asked)
    (works : post (.ok ()) {m.asked with frontend := some info}) :
    (BalancerTables.setFrontend info : Action Memory Unit).Ensures m post :=
  .bind (ensures_ask fails (.modify works))

theorem ensures_allowRedirect {ifindex : UInt32}
    (fails : m.faults.MayFail .allowRedirect →
      post (.error Operation.allowRedirect.failure) m.asked)
    (works : post (.ok ()) {m.asked with redirect := m.redirect.insert ifindex}) :
    (BalancerTables.allowRedirect ifindex : Action Memory Unit).Ensures m post :=
  .bind (ensures_ask fails (.modify works))

theorem ensures_revokeRedirect {ifindex : UInt32}
    (fails : m.faults.MayFail .revokeRedirect →
      post (.error Operation.revokeRedirect.failure) m.asked)
    (absent : m.redirect.contains ifindex = false →
      post (.error (missing "redirect_dev_map")) m.asked)
    (works : m.redirect.contains ifindex = true →
      post (.ok ()) {m.asked with redirect := m.redirect.erase ifindex}) :
    (BalancerTables.revokeRedirect ifindex : Action Memory Unit).Ensures m post :=
  ensures_remove fails absent works

theorem ensures_backendInfo? {id : UInt32}
    {post : Except ServiceError (Option Balancer.BackendInfo) → Memory → Prop}
    (fails : m.faults.MayFail .backendInfo → post (.error Operation.backendInfo.failure) m.asked)
    (works : post (.ok m.backendInfo[id]?) m.asked) :
    (BalancerTables.backendInfo? id : Action Memory _).Ensures m post :=
  .bind (ensures_ask fails (.get_bind (.pure works)))

theorem ensures_setBackendInfo {id : UInt32} {info : Balancer.BackendInfo}
    (fails : m.faults.MayFail .setBackendInfo →
      post (.error Operation.setBackendInfo.failure) m.asked)
    (works : post (.ok ()) {m.asked with backendInfo := m.backendInfo.insert id info}) :
    (BalancerTables.setBackendInfo id info : Action Memory Unit).Ensures m post :=
  .bind (ensures_ask fails (.modify works))

theorem ensures_removeBackendInfo {id : UInt32}
    (fails : m.faults.MayFail .removeBackendInfo →
      post (.error Operation.removeBackendInfo.failure) m.asked)
    (absent : m.backendInfo.contains id = false → post (.error (missing "backend_info")) m.asked)
    (works : m.backendInfo.contains id = true →
      post (.ok ()) {m.asked with backendInfo := m.backendInfo.erase id}) :
    (BalancerTables.removeBackendInfo id : Action Memory Unit).Ensures m post :=
  ensures_remove fails absent works

theorem ensures_setBackendIfindex {ifindex id : UInt32}
    (fails : m.faults.MayFail .setBackendIfindex →
      post (.error Operation.setBackendIfindex.failure) m.asked)
    (works : post (.ok ()) {m.asked with backendIfindex := m.backendIfindex.insert ifindex id}) :
    (BalancerTables.setBackendIfindex ifindex id : Action Memory Unit).Ensures m post :=
  .bind (ensures_ask fails (.modify works))

theorem ensures_removeBackendIfindex {ifindex : UInt32}
    (fails : m.faults.MayFail .removeBackendIfindex →
      post (.error Operation.removeBackendIfindex.failure) m.asked)
    (absent : m.backendIfindex.contains ifindex = false →
      post (.error (missing "backend_ifindex")) m.asked)
    (works : m.backendIfindex.contains ifindex = true →
      post (.ok ()) {m.asked with backendIfindex := m.backendIfindex.erase ifindex}) :
    (BalancerTables.removeBackendIfindex ifindex : Action Memory Unit).Ensures m post :=
  ensures_remove fails absent works

/-- The writes of one slot can fail for that slot or for all of them. A slot past the last one is
refused. -/
theorem ensures_setSlot_now {slot : Nat} {id : UInt32}
    (slot_fails : m.faults.fails (.slot slot) = true →
      post (.error (Operation.slot slot).failure) m.asked)
    (fails : m.faults.next.fails .setSlot = true →
      post (.error Operation.setSlot.failure) m.asked.asked)
    (beyond : 64 ≤ slot →
      post (.error (.engine s!"rr_table: slot {slot} out of range")) m.asked.asked)
    (works : slot < 64 → m.faults.fails (.slot slot) = false →
      m.faults.next.fails .setSlot = false →
      post (.ok ()) {m.asked.asked with slots := m.slots.setIfInBounds slot id}) :
    (BalancerTables.setSlot slot id : Action Memory Unit).Ensures m post := by
  refine .bind (ensures_ask_now slot_fails fun first => ?_)
  refine .bind (ensures_ask_now fails fun second => ?_)
  split
  · rename_i inside
    have same : m.slots.setIfInBounds slot id = m.slots.set slot id inside := by
      ext j hj
      rw [Vector.getElem_setIfInBounds, Vector.getElem_set]
    exact .modify (same ▸ works inside first second)
  · rename_i outside
    exact .throw (beyond (Nat.le_of_not_lt outside))

theorem ensures_setSlot {slot : Nat} {id : UInt32}
    (slot_fails : m.faults.MayFail (.slot slot) →
      post (.error (Operation.slot slot).failure) m.asked)
    (fails : m.faults.MayFail .setSlot → post (.error Operation.setSlot.failure) m.asked.asked)
    (beyond : 64 ≤ slot →
      post (.error (.engine s!"rr_table: slot {slot} out of range")) m.asked.asked)
    (works : slot < 64 →
      post (.ok ()) {m.asked.asked with slots := m.slots.setIfInBounds slot id}) :
    (BalancerTables.setSlot slot id : Action Memory Unit).Ensures m post :=
  ensures_setSlot_now (fun failing => slot_fails ⟨_, failing⟩) (fun failing => fails ⟨_, failing⟩)
    beyond fun inside _ _ => works inside

theorem ensures_attach {ifindex : UInt32} {post : Except ServiceError Link → Memory → Prop}
    (fails : m.faults.MayFail .attach → post (.error Operation.attach.failure) m.asked)
    (works : post (.ok ⟨ifindex⟩) {m.asked with attached := m.attached.insert ifindex}) :
    (Attacher.attach ifindex : Action Memory Link).Ensures m post :=
  .bind (ensures_ask fails (.modify_bind (.pure works)))

theorem ensures_detach {link : Link}
    (fails : m.faults.MayFail .detach → post (.error Operation.detach.failure) m.asked)
    (works : post (.ok ()) {m.asked with
      attached := m.attached.erase link.ifindex
      detached := m.detached ++ [link.ifindex]}) :
    (Attacher.detach link : Action Memory Unit).Ensures m post :=
  .bind (ensures_ask fails (.modify works))

end Balancer
end Memory
end EdgeControl
