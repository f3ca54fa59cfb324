import EdgeControl.Config
import EdgeControl.Proofs.Json.ReadBack

/-!
A configuration read back from its JSON form, part by part. Each part is an object with all its
fields and no other, which is what the reading of a closed record asks for.
-/
namespace EdgeControl

namespace Config

/-! ### Records and the kinds of values -/

@[simp] theorem fields?_obj {names : List String} {closed : Bool}
    {members : List (String × Json)} (named : members.map Prod.fst = names)
    (distinct : names.Nodup) :
    fields? names closed (Json.obj members) = some fun name => members.lookup name := by
  have once : (names.any fun name => 1 < names.count name) = false := by
    simpa using fun name _ => List.nodup_iff_count.mp distinct name
  change (if closed && !(members.map Prod.fst).all names.contains then none
    else if names.any fun name => 1 < (members.map Prod.fst).count name then none
    else some fun name => members.lookup name) = _
  simp [named, once]

attribute [simp] Fields.get? Fields.getD?

@[simp] theorem text?_str (s : String) : text? (Json.str s) = some s := rfl

@[simp] theorem text?_toJson (s : String) : text? (toJson s) = some s := rfl

@[simp] theorem natural?_toJson (n : UInt64) : natural? (toJson n) = some n := ofJson?_toJson n

@[simp] theorem truth?_toJson (b : Bool) : truth? (toJson b) = some b := rfl

@[simp] theorem optionalText?_toJson (o : Option String) : optionalText? (toJson o) = some o := by
  cases o <;> rfl

@[simp] theorem readAddress?_toJson (a : Ipv4) : readAddress? (toJson a) = some a := by
  have text : text? (toJson a) = some (toString a) := rfl
  rw [readAddress?, text, Option.bind_some, a.ofString?_toString]

@[simp] theorem choice?_level (l : LogLevel) :
    (choice? (toJson l)).bind LogLevel.ofName? = some l := by
  cases l <;> rfl

@[simp] theorem choice?_format (f : LogFormat) :
    (choice? (toJson f)).bind LogFormat.ofName? = some f := by
  cases f <;> rfl

theorem list?_toJson {α : Type} [JsonForm α] {read : Json → Option α}
    (back : ∀ a, read (toJson a) = some a) (xs : List α) : list? read (toJson xs) = some xs :=
  mapM_map_of_inverse back xs

/-! ### The parts of a configuration -/

theorem Rule.read?_toJson (r : Rule) : Rule.read? (EdgeControl.toJson r) = some r := by
  change Rule.read? (Json.obj _) = some r
  simp [Rule.read?]

theorem Policy.read?_toJson (p : Policy) : Policy.read? (EdgeControl.toJson p) = some p := by
  change Policy.read? (Json.obj _) = some p
  simp [Policy.read?]

theorem readBackend?_toJson (b : Balancer.Spec) : readBackend? (toJson b) = some b := by
  change readBackend? (Json.obj _) = some b
  simp [readBackend?]

theorem readAgent?_agentJson (c : Config) :
    readAgent? c.agentJson = some {
      device := c.device
      vip := c.vip
      logLevel := c.logLevel
      logFormat := c.logFormat
      objectPath? := c.objectPath?} := by
  simp [readAgent?, agentJson]

theorem readGc?_gcJson (t s : Flow.Settings) :
    readGc? t (gcJson s) =
      some {t with gcEnabled := s.gcEnabled, gcLifetimeSecs := s.gcLifetimeSecs} := by
  simp [readGc?, gcJson]

theorem readBalancer?_balancerJson (c d : Config) :
    readBalancer? c d.balancerJson = some {c with
      tracking := d.tracking
      probeTimeoutMs := d.probeTimeoutMs
      backends := d.backends} := by
  simp [readBalancer?, balancerJson, readGc?_gcJson, list?_toJson readBackend?_toJson]

theorem readFirewall?_firewallJson (c d : Config) :
    readFirewall? c d.firewallJson = some {c with rules := d.rules} := by
  simp [readFirewall?, firewallJson, list?_toJson Rule.read?_toJson]

theorem readProtection?_protectionJson (c d : Config) :
    readProtection? c d.protectionJson = some {c with policies := d.policies} := by
  simp [readProtection?, protectionJson, list?_toJson Policy.read?_toJson]

/-- Every part gives back its own fields, over the defaults or what earlier parts gave. -/
instance : LawfulJsonForm Config where
  ofJson?_toJson c := by
    change Config.read? (Json.obj _) = some c
    simp [Config.read?, readAgent?_agentJson, readBalancer?_balancerJson,
      readFirewall?_firewallJson, readProtection?_protectionJson]

end Config

end EdgeControl
