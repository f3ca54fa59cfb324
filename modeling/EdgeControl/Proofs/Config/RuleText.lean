import EdgeControl.Proofs.Address.Spelling
import EdgeControl.Proofs.Config.Accepted

/-!
The texts that describe a firewall rule. What each of the four texts may be is said without the
readers, and the rule is described when the texts are of that kind and the ranges they give fit
together.
-/
namespace EdgeControl

open EdgeControl.Text

namespace Protocol

theorem ofName?_eq_some_iff {s : String} {p : Protocol} : ofName? s = some p ↔ s = p.name := by
  constructor
  · intro named
    unfold ofName? at named
    split at named
    all_goals cases named
    all_goals rfl
  · rintro rfl
    cases p <;> rfl

theorem ofString_eq_ok_iff {s : String} {p : Protocol} :
    ofString s = .ok p ↔ InAnyCase p.name.toList s.toList := by
  have small : ∀ l ∈ p.name.toList, l.toUpper.toLower = l := by
    cases p <;> simp [name]
  have read : ofString s = .ok p ↔ ofName? (String.ofList (lowercase s.toList)) = some p := by
    unfold ofString
    cases ofName? (String.ofList (lowercase s.toList)) <;> simp
  rw [read, ofName?_eq_some_iff, ← lowercase_eq_iff small, ← String.toList_inj,
    String.toList_ofList]

end Protocol

namespace PortRange

/-- The texts of a range: the word any, a port, or two ports with a dash between them, each with any
blanks around it. -/
inductive Spelled : List Char → PortRange → Prop
  | any {w cs : List Char} (padded : Padded w cs) (word : InAnyCase ['a', 'n', 'y'] w) :
    Spelled cs all
  | one {w cs : List Char} {port : UInt16} (padded : Padded w cs)
    (numeral : Numeral port.toNat w) : Spelled cs (single port)
  | two {v w cs ds : List Char} {first last : UInt16} (before : Padded v cs) (behind : Padded w ds)
    (numeral : Numeral first.toNat v) (numeral' : Numeral last.toNat w) (ordered : first ≤ last) :
    Spelled (cs ++ '-' :: ds) ⟨first, last⟩

theorem port?_eq_some_iff {cs : List Char} {port : UInt16} :
    port? cs = some port ↔ Numeral port.toNat cs := by
  have bound := port.toNat_lt
  simp only [port?, Option.map_eq_some_iff, decimal?_eq_some_iff]
  constructor
  · rintro ⟨n, ⟨within, numeral⟩, rfl⟩
    rwa [UInt16.toNat_ofNat_of_lt' (Nat.lt_succ_of_le within)]
  · intro numeral
    exact ⟨port.toNat, ⟨by omega, numeral⟩, UInt16.ofNat_toNat⟩

theorem clean_numeral {n : Nat} {cs : List Char} (numeral : Numeral n cs) :
    ∀ c ∈ cs, isBlank c = false ∧ c ≠ '-' ∧ c.toLower ∉ ['a', 'n', 'y'] :=
  numeral.forall_mem (by decide) (by decide)

theorem lowercase_ne_any_of_mem {cs : List Char} {c : Char} (member : c ∈ cs)
    (other : c.toLower ∉ ['a', 'n', 'y']) : lowercase cs ≠ ['a', 'n', 'y'] := by
  intro any
  rw [← any] at other
  exact other (List.mem_map_of_mem member)

theorem trim_of_numeral {n : Nat} {w cs : List Char} (numeral : Numeral n w)
    (padded : Padded w cs) : trim cs = w :=
  trim_of_padded_clean (fun c member => (clean_numeral numeral c member).1) padded

theorem trim_of_numerals {n m : Nat} {v w gap cs : List Char} (numeral : Numeral n v)
    (numeral' : Numeral m w) (padded : Padded (v ++ gap ++ w) cs) : trim cs = v ++ gap ++ w := by
  refine trim_of_padded ?_ ?_ padded
  · rw [List.append_assoc, List.head?_append_of_ne_nil v numeral.ne_nil]
    exact fun c member => (clean_numeral numeral c (List.mem_of_mem_head? member)).1
  · rw [List.getLast?_append_of_ne_nil _ numeral'.ne_nil]
    exact fun c member => (clean_numeral numeral' c (List.mem_of_mem_getLast? member)).1

theorem ofText?_of_two {v w cs ds : List Char} {first last : UInt16} (before : Padded v cs)
    (behind : Padded w ds) (numeral : Numeral first.toNat v) (numeral' : Numeral last.toNat w)
    (ordered : first ≤ last) : ofText? (cs ++ '-' :: ds) = some ⟨first, last⟩ := by
  obtain ⟨outer, inner, start, middle, rfl⟩ := before
  obtain ⟨inner', outer', middle', stop, rfl⟩ := behind
  have trimmed : trim (outer ++ v ++ inner ++ '-' :: (inner' ++ w ++ outer')) =
      v ++ (inner ++ '-' :: inner') ++ w :=
    trim_of_numerals numeral numeral' ⟨outer, outer', start, stop, by simp⟩
  have core : v ++ (inner ++ '-' :: inner') ++ w = v ++ inner ++ '-' :: (inner' ++ w) := by simp
  have other : lowercase (v ++ inner ++ '-' :: (inner' ++ w)) ≠ ['a', 'n', 'y'] :=
    lowercase_ne_any_of_mem (c := '-') (by simp) (by decide)
  have undivided : '-' ∉ v ++ inner := by
    intro dash
    rcases List.mem_append.mp dash with digit | gap
    · exact (clean_numeral numeral '-' digit).2.1 rfl
    · exact absurd (middle '-' gap) (by decide)
  have front : trim (v ++ inner) = v := trim_of_numeral numeral ⟨[], inner, nofun, middle, rfl⟩
  have back : trim (inner' ++ w) = w :=
    trim_of_numeral numeral' ⟨inner', [], middle', nofun, (List.append_nil _).symm⟩
  rw [ofText?, trimmed, core, if_neg other, splitOnce_append_cons undivided]
  simp [front, back, port?_eq_some_iff.mpr numeral, port?_eq_some_iff.mpr numeral',
    UInt16.not_lt.mpr ordered]

theorem ofText?_of_spelled {cs : List Char} {r : PortRange} (spelled : Spelled cs r) :
    ofText? cs = some r := by
  cases spelled with
  | any padded word =>
    have clean := word.forall_mem (p := (isBlank · = false)) (by simp [isBlank])
    have small : lowercase _ = ['a', 'n', 'y'] := (lowercase_eq_iff (by simp)).mpr word
    rw [ofText?, trim_of_padded_clean clean padded, if_pos small]
  | @one w cs port padded numeral =>
    have clean := clean_numeral numeral
    obtain ⟨c, member⟩ := List.exists_mem_of_ne_nil w numeral.ne_nil
    have other : lowercase w ≠ ['a', 'n', 'y'] :=
      lowercase_ne_any_of_mem member (clean c member).2.2
    have undivided : splitOnce '-' w = none :=
      splitOnce_of_not_mem fun dash => (clean '-' dash).2.1 rfl
    rw [ofText?, trim_of_numeral numeral padded, if_neg other, undivided]
    simp only [port?_eq_some_iff.mpr numeral, Option.map_some]
  | two before behind numeral numeral' ordered =>
    exact ofText?_of_two before behind numeral numeral' ordered

theorem spelled_of_ofText? {cs : List Char} {r : PortRange} (read : ofText? cs = some r) :
    Spelled cs r := by
  have padded := padded_trim cs
  rw [ofText?] at read
  split at read
  · rename_i any
    cases read
    exact .any padded ((lowercase_eq_iff (by simp)).mp any)
  · split at read
    · obtain ⟨port, numeral, rfl⟩ := Option.map_eq_some_iff.mp read
      exact .one padded (port?_eq_some_iff.mp numeral)
    · rename_i first last divided
      simp only [Option.bind_eq_bind, Option.bind_eq_some_iff, Option.ite_none_left_eq_some,
        Option.some.injEq] at read
      obtain ⟨low, numeral, high, numeral', ordered, rfl⟩ := read
      obtain ⟨before, after, blank, blank', split⟩ := padded
      rw [(splitOnce_eq_some_iff.mp divided).2] at split
      have parts : cs = (before ++ first) ++ '-' :: (last ++ after) := by simp [split]
      rw [parts]
      exact .two ((padded_trim first).prepend blank) ((padded_trim last).append blank')
        (port?_eq_some_iff.mp numeral) (port?_eq_some_iff.mp numeral') (UInt16.not_lt.mp ordered)

theorem ofString_eq_ok_iff {s : String} {r : PortRange} :
    ofString s = .ok r ↔ Spelled s.toList r := by
  have read : ofString s = .ok r ↔ ofText? s.toList = some r := by
    unfold ofString
    cases ofText? s.toList <;> simp
  rw [read]
  exact ⟨spelled_of_ofText?, ofText?_of_spelled⟩

theorem Spelled.ordered {cs : List Char} {r : PortRange} (spelled : Spelled cs r) :
    r.validate = .ok () := by
  refine if_neg (UInt16.not_lt.mpr ?_)
  cases spelled with
  | any | one => exact UInt16.le_refl _
  | two _ _ _ _ ordered => exact ordered

end PortRange

namespace Firewall.Rule

variable {rule : Rule}

theorem ports_eq_all_iff : rule.ports = .all ↔ rule.srcPorts = .all ∧ rule.dstPorts = .all := by
  unfold ports
  split
  · rename_i wild
    simp [show rule.dstPorts = .all from beq_iff_eq.mp wild]
  · rename_i set
    have other : rule.dstPorts ≠ .all := fun same => set (beq_iff_eq.mpr same)
    simp [other]

theorem validate_eq_ok_iff : rule.validate = .ok () ↔
    rule.srcPorts.validate = .ok () ∧ rule.dstPorts.validate = .ok () ∧
      (rule.srcPorts = .all ∨ rule.dstPorts = .all) ∧
      (rule.protocol = .icmp → rule.srcPorts = .all ∧ rule.dstPorts = .all) := by
  have last {c : Prop} [Decidable c] {e : RuleError} :
      (if c then throw e else pure () : Except RuleError Unit) = .ok () ↔ ¬ c := by
    split <;> simp_all [throw, throwThe, MonadExceptOf.throw, pure, Except.pure]
  simp only [validate, check_bind_eq_ok, unless_eq_ok, last, PortRange.isAny, Bool.and_eq_true,
    Bool.not_eq_true', beq_eq_false_iff_ne, beq_iff_eq, not_and, ne_eq, not_not, ports_eq_all_iff]
  rw [imp_iff_not_or, not_not, Classical.not_imp, not_not]

end Firewall.Rule

namespace Config.Rule

variable {r : Rule} {rule : Firewall.Rule} {field : String}

/-- A port range that is given is spelled by its text; every port if none is given. -/
def PortsStated (text : Option String) (ports : PortRange) : Prop :=
  match text with
  | none => ports = .all
  | some s => ports.Spelled s.toList

/-- What a new rule must be for the four texts to state it. -/
structure States (r : Rule) (rule : Firewall.Rule) : Prop where
  network : ∃ a, Network.Spelled r.network.toList a rule.network.prefixLen ∧
    rule.network.contains a = true
  protocol : InAnyCase rule.protocol.name.toList r.protocol.toList
  srcPorts : PortsStated r.srcPorts rule.srcPorts
  dstPorts : PortsStated r.dstPorts rule.dstPorts
  oneRange : rule.srcPorts = .all ∨ rule.dstPorts = .all
  portless : rule.protocol = .icmp → rule.srcPorts = .all ∧ rule.dstPorts = .all
  id : rule.id = 0
  dropCount : rule.dropCount = 0

theorem networkOf_eq_ok_iff {s : String} {n : Network} :
    networkOf s = .ok n ↔ Network.ofString s = .ok n := by
  unfold networkOf
  split
  · exact mapError_eq_ok
  · rename_i plain
    have whole : splitOnce '/' s.toList = none :=
      splitOnce_of_not_mem fun slash => plain (List.contains_iff_mem.mpr slash)
    rw [Network.ofString, Network.ofText?, whole, Ipv4.ofString?]
    cases Ipv4.ofText? s.toList <;> simp

theorem portsOf_eq_ok_iff {text : Option String} {ports : PortRange} :
    portsOf field text = .ok ports ↔ PortsStated text ports := by
  cases text with
  | none => simp [portsOf, PortsStated, eq_comm]
  | some s => exact about_eq_ok.trans PortRange.ofString_eq_ok_iff

theorem PortsStated.ordered {text : Option String} {ports : PortRange}
    (stated : PortsStated text ports) : ports.validate = .ok () := by
  cases text with
  | none =>
    rw [show ports = .all from stated]
    rfl
  | some s => exact PortRange.Spelled.ordered stated

theorem toRule_eq_ok_iff : r.toRule field = .ok rule ↔ r.States rule := by
  simp only [toRule, bind_eq_ok, mapError_eq_ok, about_eq_ok, networkOf_eq_ok_iff,
    Network.ofString_eq_ok_iff_spelled, Protocol.ofString_eq_ok_iff, portsOf_eq_ok_iff]
  constructor
  · rintro ⟨network, named, protocol, word, src, stated, dst, stated', ⟨⟩, valid, made⟩
    obtain ⟨-, -, one, portless⟩ := Firewall.Rule.validate_eq_ok_iff.mp valid
    cases made
    exact ⟨named, word, stated, stated', one, portless, rfl, rfl⟩
  · rintro ⟨named, word, stated, stated', one, portless, fresh, unused⟩
    refine ⟨_, named, _, word, _, stated, _, stated', (),
      Firewall.Rule.validate_eq_ok_iff.mpr ⟨stated.ordered, stated'.ordered, one, portless⟩, ?_⟩
    rw [← fresh, ← unused]
    rfl

/-- The four texts make up a rule exactly if they state it. Its network is then the one that is
read from the text anywhere else, and its record has the range of the side that is not left open. -/
theorem toRule_iff_states (r : Rule) (field : String) :
    (∀ rule, r.toRule field = .ok rule ↔ r.States rule) ∧
      ∀ rule, r.toRule field = .ok rule →
        Network.ofString r.network = .ok rule.network ∧
          ∃ range, (rule.srcPorts = .all ∧ range = rule.dstPorts ∨
              rule.dstPorts = .all ∧ range = rule.srcPorts) ∧
            rule.entry = ⟨0, range.first, range.last, rule.protocol.number⟩ := by
  refine ⟨fun rule => toRule_eq_ok_iff, fun rule made => ?_⟩
  have stated := toRule_eq_ok_iff.mp made
  refine ⟨Network.ofString_eq_ok_iff_spelled.mpr stated.network, rule.ports, ?_, ?_⟩
  · unfold Firewall.Rule.ports
    split
    · rename_i wild
      exact .inr ⟨beq_iff_eq.mp wild, rfl⟩
    · rename_i set
      exact .inl ⟨stated.oneRange.resolve_right fun same => set (beq_iff_eq.mpr same), rfl⟩
  · rw [Firewall.Rule.entry, stated.id]

/-- Signs, leading zeros, blanks, capitals and bits past the prefix are all let through. -/
theorem loosely_spelled_rule :
    let r : Rule :=
      {network := "10.1.2.3/+08", protocol := "TcP", dstPorts := some " 80 - +443 "}
    let rule : Firewall.Rule :=
      {network := ⟨⟨0x0a000000⟩, 8, by decide, by decide⟩, dstPorts := ⟨80, 443⟩, protocol := .tcp}
    r.States rule ∧ Network.ofString r.network = .ok rule.network ∧
      rule.entry = ⟨0, 80, 443, 6⟩ := by
  intro r rule
  have made : r.toRule "firewall.rules" = .ok rule := by decide +kernel
  obtain ⟨stated, yields⟩ := toRule_iff_states r "firewall.rules"
  obtain ⟨named, range, which, entry⟩ := yields rule made
  have set : range = rule.dstPorts := by
    rcases which with ⟨-, same⟩ | ⟨wild, -⟩
    · exact same
    · exact absurd wild (by decide)
  exact ⟨(stated rule).mp made, named, by rw [entry, set]; rfl⟩

end Config.Rule
end EdgeControl
