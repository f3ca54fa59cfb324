import EdgeControl.Proofs.Balancer.Transition

/-!
The operations of a balancer on tables in memory do what their relations say: whatever operations
of the host fail, and at whatever point, the answer and the snapshot left are one of the cases.
-/
namespace EdgeControl.Balancer.Service

open EdgeControl.Action Snapshot

structure Steady (s t : Service Memory) : Prop where
  snapshot : t.snapshot = s.snapshot
  faults : t.base.faults.MayFail = s.base.faults.MayFail

theorem start_ensures (s : Service Memory) :
    start.Ensures s fun r t => Starting s.base.faults.MayFail s.snapshot r t.snapshot := by
  refine .get_bind (.bind (.ofExcept (fun info valid => ?_) fun e invalid => .refused e invalid))
  refine .note_bind (.bind (.onPart (Memory.ensures_setFrontend .unrecorded ?_)))
  refine .bind (.onPart (Memory.ensures_allowRedirect (.disallowed info valid) ?_))
  exact .note (.started info valid)

theorem findNeighbor_ensures (s : Service Memory) (addr : Ipv4) :
    (findNeighbor addr).Ensures s fun _ t => Steady s t := by
  have probe : (Neighbors.probe addr : Action Memory Unit).Ensures s.base fun _ m =>
      Steady s {s with base := m} :=
    .modify_bind (Memory.ensures_ask (fun _ => ⟨rfl, rfl⟩) ⟨rfl, rfl⟩)
  have resolve (t : Service Memory) (same : Steady s t) :
      (onBase (Neighbors.resolve addr)).Ensures t fun _ u => Steady s u :=
    .onPart (.bind (Memory.ensures_ask (fun _ => ⟨same.snapshot, same.faults⟩)
      (.get_bind (.pure ⟨same.snapshot, same.faults⟩))))
  refine .bind (.result (.onPart (probe.mono fun r m same => ?_)))
  cases r with
  | ok _ =>
    refine .bind ((resolve _ same).mono ?_)
    rintro (e | none | neighbor) u same
    · exact same
    · exact .throw same
    · exact .pure same
  | error e =>
    refine .note_bind (.bind ((resolve _ same).mono ?_))
    rintro (e | none | neighbor) u same
    · exact same
    · exact .throw same
    · exact .pure same

theorem attachDevice_ensures (s : Service Memory) (id ifindex : UInt32) :
    (attachDevice id ifindex).Ensures s fun r t =>
      (r = .ok () ∧ t.snapshot = if s.links.contains ifindex then s.snapshot
        else s.snapshot.attach ifindex) ∨
      (s.links.contains ifindex = false ∧ s.base.faults.MayFail .attach ∧
        r = .error Operation.attach.failure ∧ t.snapshot = s.snapshot) := by
  refine .get_bind ?_
  split
  · rename_i linked
    exact .note (.inl ⟨rfl, rfl⟩)
  · rename_i unlinked
    refine .bind (.onPart (Memory.ensures_attach (fun fault => ?_) (.modify ?_)))
    · exact .inr ⟨Bool.eq_false_iff.mpr unlinked, fault, rfl, rfl⟩
    · exact .inl ⟨rfl, rfl⟩

theorem nextSlot_ok {registry : Registry} {slot : Nat} (h : registry.nextSlot = .ok slot) :
    slot = registry.rotation.length ∧ registry.rotation.length < rotationSlots := by
  unfold Registry.nextSlot at h
  split at h
  · cases h
  · rename_i room
    cases h
    exact ⟨rfl, Nat.lt_of_not_le room⟩

theorem setBackend_ensures (s : Service Memory) (spec : Spec) :
    (setBackend spec).Ensures s fun r t =>
      Registering s.base.faults.MayFail s.snapshot spec r t.snapshot := by
  refine .bind (.ofExcept (fun _ valid => ?_) fun e _ => .refused _)
  refine .bind ((findNeighbor_ensures s spec.addr).mono fun r t same => ?_)
  rw [← same.snapshot, ← same.faults]
  cases r with
  | error e => exact .refused e
  | ok neighbor =>
    refine .get_bind (.bind (.ofExcept (fun slot free => ?_) fun e _ => .refused _))
    obtain ⟨rfl, room⟩ := nextSlot_ok free
    have admitted : t.snapshot.Admitted (.ofSpec t.registry.nextId spec neighbor) spec :=
      ⟨valid, room, neighbor, rfl⟩
    refine .get_bind (.set_bind ?_)
    refine .bind (.onPart (Memory.ensures_setBackendInfo (.unrecorded _ admitted) ?_))
    refine .modify_bind ?_
    refine .bind (.onPart (Memory.ensures_setBackendIfindex (.unpointed _ admitted) ?_))
    refine .bind (.onPart (Memory.ensures_allowRedirect (.disallowed _ admitted) ?_))
    refine .bind (.onPart (Memory.ensures_setSlot
      (fun fault => .unplaced _ admitted _ (.inl rfl) fault)
      (fun fault => .unplaced _ admitted _ (.inr rfl) fault)
      (fun beyond => absurd room (Nat.not_lt.mpr beyond)) fun _ => ?_))
    refine .modify_bind (.note_bind (.bind ((attachDevice_ensures _ _ _).mono ?_)))
    rintro r u (⟨rfl, last⟩ | ⟨first, ⟨n, fails⟩, rfl, last⟩)
    · refine .note_bind (.pure ?_)
      rw [last]
      exact .registered _ admitted
    · change Registering _ _ _ _ u.snapshot
      rw [last]
      exact .unattached _ admitted first ⟨n, fails⟩

theorem writeSlots_ensures (ws : List SlotWrite) (s : Service Memory) :
    (ws.forM fun w => onBase (BalancerTables.setSlot w.slot w.backendId)).Ensures s fun r t =>
      t.base.faults.MayFail = s.base.faults.MayFail ∧
        Writing s.base.faults.MayFail s.snapshot ws r t.snapshot := by
  induction ws generalizing s with
  | nil => exact .pure ⟨rfl, .done _⟩
  | cons w ws ih =>
    refine .bind (.onPart (Memory.ensures_setSlot (fun fault => ?_) (fun fault => ?_)
      (fun beyond => ?_) fun _ => ?_))
    · exact ⟨rfl, .halted _ _ _ _ (.inl fault)⟩
    · exact ⟨rfl, .halted _ _ _ _ (.inr (.inl fault))⟩
    · exact ⟨rfl, .halted _ _ _ _ (.inr (.inr beyond))⟩
    · exact (ih _).mono fun _ _ h => ⟨h.1, .next h.2⟩

theorem drainWrites_error {registry : Registry} {id : UInt32} {e : BalancerError}
    (h : registry.drainWrites id = .error e) :
    registry.get? id = none ∧ e = .backendNotFound id := by
  unfold Registry.drainWrites at h
  split at h
  · split at h <;> cases h
  · rename_i absent
    cases h
    exact ⟨Std.ExtTreeMap.getElem?_eq_none_of_contains_eq_false (Bool.eq_false_iff.mpr absent), rfl⟩

theorem drain_ensures (s : Service Memory) (id : UInt32) :
    (drain id).Ensures s fun r t =>
      Draining s.base.faults.MayFail s.snapshot id r t.snapshot := by
  refine .get_bind (.bind (.ofExcept (fun ws writes => ?_) fun e refused => ?_))
  · refine .get_bind ?_
    split
    · rename_i b known
      refine .bind ((writeSlots_ensures ws s).mono fun r t ⟨faults, writing⟩ => ?_)
      cases r with
      | error e => exact .halted b known ws writes e _ writing
      | ok _ =>
        have written : t.snapshot = s.snapshot.writeAll ws := writing.ok
        refine .bind (.onPart (Memory.ensures_setBackendInfo (fun fault => ?_) ?_))
        · change Draining _ _ _ _ t.snapshot
          rw [written]
          exact .unmarked b known ws writes (faults ▸ fault)
        · refine .get_bind ?_
          -- The writes left the registry alone, so the backend is still there to be marked.
          have kept : t.registry = s.registry :=
            (congrArg Snapshot.registry written).trans (registry_writeAll _ ws)
          have known' : t.registry.get? id = some b := kept ▸ known
          simp only [balancer, Registry.commitDrain, known', Action.ofExcept]
          refine .bind (.pure (.set_bind (.note ?_)))
          change Draining _ _ _ _ (t.snapshot.retire b id)
          rw [written]
          exact .drained b known ws writes
    · rename_i absent
      refine .throw (.unknown ?_)
      cases known : s.registry.get? id with
      | none => exact known
      | some b => exact absurd known (absent b)
  · obtain ⟨absent, rfl⟩ := drainWrites_error refused
    exact .unknown absent

theorem checkDrained_ensures (s : Service Memory) (b : Backend) :
    (checkDrained b).Ensures s fun r t => Steady s t ∧
      ((r = .ok (s.base.backendInfo.contains b.id) ∧ s.snapshot.Drained b) ∨
        ∃ e, r = .error e ∧ (s.base.faults.MayFail .backendInfo ∨ ¬ s.snapshot.Drained b)) := by
  refine .bind (.onPart (Memory.ensures_backendInfo? (fun fault => ?_) ?_))
  · exact ⟨⟨rfl, rfl⟩, .inr ⟨_, rfl, .inl fault⟩⟩
  · rw [Std.ExtTreeMap.contains_eq_isSome_getElem?]
    cases found : s.base.backendInfo[b.id]? with
    | some info =>
      have check : s.snapshot.Drained b ↔ _ := drained_some found
      dsimp only [Ensures.Then]
      split
      · rename_i unavailable
        exact .pure ⟨⟨rfl, rfl⟩, .inl ⟨rfl, check.mpr unavailable⟩⟩
      · rename_i available
        exact .note_bind (.throw ⟨⟨rfl, rfl⟩, .inr ⟨_, rfl, .inr (mt check.mp available)⟩⟩)
    | none =>
      have check : s.snapshot.Drained b ↔ _ := drained_none found
      dsimp only [Ensures.Then]
      split
      · rename_i unavailable
        exact .note_bind (.pure ⟨⟨rfl, rfl⟩, .inl ⟨rfl, check.mpr unavailable⟩⟩)
      · rename_i available
        exact .throw ⟨⟨rfl, rfl⟩, .inr ⟨_, rfl, .inr (mt check.mp available)⟩⟩

theorem detachDevice_ensures (s : Service Memory) (b : Backend)
    (alone : s.snapshot.sibling? b = none) :
    (detachDevice b.ifindex).Ensures s fun r t =>
      t.base.faults.MayFail = s.base.faults.MayFail ∧
      ((r = .ok () ∧ t.snapshot = s.snapshot.vacated b) ∨
        ∃ link, s.links[b.ifindex]? = some link ∧ s.base.faults.MayFail .detach ∧
          r = .error Operation.detach.failure ∧ t.snapshot = s.snapshot.unlink b.ifindex) := by
  refine .get_bind ?_
  cases linked : s.links[b.ifindex]? with
  | none =>
    have vacated : s.snapshot.vacated b = s.snapshot := by
      simp only [Snapshot.vacated, alone, show s.snapshot.links[b.ifindex]? = none from linked]
    exact .pure ⟨rfl, .inl ⟨rfl, vacated.symm⟩⟩
  | some link =>
    have vacated : s.snapshot.vacated b = (s.snapshot.unlink b.ifindex).detach link := by
      simp only [Snapshot.vacated, alone, show s.snapshot.links[b.ifindex]? = some link from linked]
    refine .set_bind (.onPart (Memory.ensures_detach (fun fault => ?_) ?_))
    · exact ⟨rfl, .inr ⟨link, rfl, fault, rfl, rfl⟩⟩
    · exact ⟨rfl, .inl ⟨rfl, vacated.symm⟩⟩

theorem forgetRecord_ensures {u : Service Memory} {recorded : Bool} {id : UInt32} {α : Type}
    {next : Unit → Action (Service Memory) α} {post : Except ServiceError α → Service Memory → Prop}
    (fails : ∀ e t, recorded = true →
      (u.base.faults.MayFail .removeBackendInfo ∨ u.base.backendInfo.contains id = false) →
      Steady u t → post (.error e) t)
    (works : ∀ t, t.base.faults.MayFail = u.base.faults.MayFail →
      t.snapshot = (if recorded then u.snapshot.forget id else u.snapshot) →
      (next ()).Ensures t post) :
    (if recorded = true then onBase (BalancerTables.removeBackendInfo id) >>= next
      else next ()).Ensures u post := by
  cases recorded with
  | false => exact works u rfl rfl
  | true =>
    refine .bind (.onPart (Memory.ensures_removeBackendInfo (fun fault => ?_) (fun gone => ?_) ?_))
    · exact fails _ _ rfl (.inl fault) ⟨rfl, rfl⟩
    · exact fails _ _ rfl (.inr gone) ⟨rfl, rfl⟩
    · exact fun _ => works _ rfl rfl

/-- The last steps of the deletion of a backend without sibling. -/
theorem withdraw_ensures {t w : Service Memory} {b : Backend} {id : UInt32}
    {next : Unit → Action (Service Memory) Unit} (known : t.snapshot.registry.get? id = some b)
    (drained : t.snapshot.Drained b) (alone : t.snapshot.sibling? b = none)
    (faults : w.base.faults.MayFail = t.base.faults.MayFail)
    (forgotten : w.snapshot = t.snapshot.forgotten b id)
    (rest : ∀ u : Service Memory, (next ()).Ensures u fun r x =>
      x.base.faults.MayFail = u.base.faults.MayFail ∧ r = .ok () ∧
        x.snapshot = u.snapshot.remove id) :
    (do
      onBase (BalancerTables.removeBackendIfindex b.ifindex)
      let s ← get
      if (b.ifindex != s.frontend.ifindex) = true then do
        let r ← onBase (BalancerTables.revokeRedirect b.ifindex)
        next r
      else next () : Action (Service Memory) Unit).Ensures w fun r x =>
        x.base.faults.MayFail = t.base.faults.MayFail ∧
          Deleting t.base.faults.MayFail t.snapshot id r x.snapshot := by
  have pointers : w.base.backendIfindex = t.snapshot.backendIfindex :=
    (congrArg Snapshot.backendIfindex forgotten).trans (backendIfindex_forgotten _ b id)
  have redirects : w.base.redirect = t.snapshot.redirect :=
    (congrArg Snapshot.redirect forgotten).trans (redirect_forgotten _ b id)
  have frontend : w.frontend = t.snapshot.frontend :=
    (congrArg Snapshot.frontend forgotten).trans (frontend_forgotten _ b id)
  have ended (u : Service Memory) (same : u.base.faults.MayFail = t.base.faults.MayFail)
      (withdrawn : u.snapshot = t.snapshot.withdrawn b id)
      (pointed : t.snapshot.backendIfindex.contains b.ifindex = true)
      (allowed : b.ifindex = t.snapshot.frontend.ifindex ∨
        t.snapshot.redirect.contains b.ifindex = true) :
      (next ()).Ensures u fun r x => x.base.faults.MayFail = t.base.faults.MayFail ∧
          Deleting t.base.faults.MayFail t.snapshot id r x.snapshot := by
    refine (rest u).mono ?_
    rintro r x ⟨kept, rfl, removed⟩
    rw [removed, withdrawn]
    exact ⟨kept.trans same, .withdrawn b known drained alone pointed allowed⟩
  refine .bind (.onPart (Memory.ensures_removeBackendIfindex (fun fault => ⟨faults, ?_⟩)
    (fun absent => ⟨faults, ?_⟩) fun pointed => ?_))
  · change Deleting _ _ _ _ w.snapshot
    rw [forgotten]
    exact .pointed b known drained alone _ (.inl (faults ▸ fault))
  · change Deleting _ _ _ _ w.snapshot
    rw [forgotten]
    exact .pointed b known drained alone _ (.inr (pointers ▸ absent))
  · rw [pointers] at pointed
    refine .get_bind ?_
    split
    · rename_i inner
      replace inner : b.ifindex ≠ t.snapshot.frontend.ifindex := frontend ▸ bne_iff_ne.mp inner
      refine .bind (.onPart (Memory.ensures_revokeRedirect (fun fault => ⟨faults, ?_⟩)
        (fun absent => ⟨faults, ?_⟩) fun allowed => ?_))
      · change Deleting _ _ _ _ (w.snapshot.unpoint b.ifindex)
        rw [forgotten]
        exact .unrevoked b known drained alone _ pointed inner (.inl (faults ▸ fault))
      · change Deleting _ _ _ _ (w.snapshot.unpoint b.ifindex)
        rw [forgotten]
        exact .unrevoked b known drained alone _ pointed inner (.inr (redirects ▸ absent))
      · refine ended _ faults ?_ pointed (.inr (redirects ▸ allowed))
        change (w.snapshot.unpoint b.ifindex).revoke b.ifindex = _
        rw [forgotten, Snapshot.withdrawn, if_neg inner]
        rfl
    · rename_i outer
      replace outer : b.ifindex = t.snapshot.frontend.ifindex := by
        rw [← frontend]
        simpa using outer
      refine ended _ faults ?_ pointed (.inl outer)
      change w.snapshot.unpoint b.ifindex = _
      rw [forgotten, Snapshot.withdrawn, if_pos outer]
      rfl

theorem delete_ensures (s : Service Memory) (id : UInt32) :
    (delete id).Ensures s fun r t => t.base.faults.MayFail = s.base.faults.MayFail ∧
      Deleting s.base.faults.MayFail s.snapshot id r t.snapshot := by
  refine .get_bind ?_
  cases known : s.registry.get? id with
  | none => exact .pure ⟨rfl, .unknown known⟩
  | some b =>
    refine .bind ((checkDrained_ensures s b).mono ?_)
    rintro r t ⟨same, ⟨rfl, drained⟩ | ⟨e, rfl, why⟩⟩
    · have records : s.base.backendInfo = t.base.backendInfo :=
        congrArg Snapshot.backendInfo same.snapshot.symm
      replace known : t.snapshot.registry.get? id = some b := same.snapshot ▸ known
      rw [← same.snapshot] at drained
      rw [← same.snapshot, ← same.faults, records]
      refine .get_bind ?_
      dsimp only
      cases shared : sibling? t.registry b with
      | some other =>
        have vacated : t.snapshot.vacated b = t.snapshot := by
          simp only [Snapshot.vacated, show t.snapshot.sibling? b = some other from shared]
        simp only [Option.isNone_some, Bool.false_eq_true, if_false]
        refine forgetRecord_ensures (fun e u recorded fault h => ⟨h.faults, ?_⟩)
          fun u faults h => ?_
        · rw [h.snapshot.trans vacated.symm]
          exact .unforgotten b known drained e fault recorded
        · have forgotten : u.snapshot = t.snapshot.forgotten b id := by
            simp only [Snapshot.forgotten, vacated]
            exact h
          refine .bind (.onPart (Memory.ensures_setBackendIfindex (fun fault => ⟨faults, ?_⟩) ?_))
          · change Deleting _ _ _ _ u.snapshot
            rw [forgotten]
            exact .notHandedOver b known drained other shared (faults ▸ fault)
          · refine .modify_bind (.note ⟨faults, ?_⟩)
            change Deleting _ _ _ _ ((u.snapshot.point b.ifindex other.id).remove id)
            rw [forgotten]
            exact .handedOver b known drained other shared
      | none =>
        simp only [Option.isNone_none, if_true]
        refine .bind ((detachDevice_ensures t b shared).mono ?_)
        rintro r u ⟨faults, ⟨rfl, vacated⟩ | ⟨link, linked, fault, rfl, unlinked⟩⟩
        · refine forgetRecord_ensures (fun e w recorded fault h => ?_) fun w same h => ?_
          · refine ⟨h.faults.trans faults, ?_⟩
            have gone : u.base.backendInfo = t.base.backendInfo :=
              (congrArg Snapshot.backendInfo vacated).trans (backendInfo_vacated _ b)
            rw [h.snapshot, vacated]
            rw [faults, gone] at fault
            exact .unforgotten b known drained e fault recorded
          · replace faults := same.trans faults
            have forgotten : w.snapshot = t.snapshot.forgotten b id := by
              rw [h, vacated]
              rfl
            exact withdraw_ensures known drained shared faults forgotten fun u =>
              .modify_bind (.note ⟨rfl, rfl, rfl⟩)
        · refine ⟨faults, ?_⟩
          rw [unlinked]
          exact .undetached b known drained shared link linked fault
    · refine ⟨same.faults, ?_⟩
      rw [same.snapshot]
      exact .refused b known e why

theorem failure?_ensures {α : Type} {act : Action (Service Memory) α} {s : Service Memory}
    {post : Except ServiceError (Option ServiceError) → Service Memory → Prop}
    (h : act.Ensures s fun
      | .ok _, t => post (.ok none) t
      | .error e, t => post (.ok (some e)) t) : (failure? act).Ensures s post := by
  refine .bind (.result (h.mono fun r t ended => ?_))
  cases r with
  | ok _ => exact .pure ended
  | error e => exact .pure ended

theorem deleteEach_ensures (ids : List UInt32) (s : Service Memory) :
    (ids.mapM fun id => failure? (delete id)).Ensures s fun r t =>
      ∃ failures, r = .ok failures ∧
        DeletingAll s.base.faults.MayFail s.snapshot ids (failures.filterMap id) t.snapshot := by
  induction ids generalizing s with
  | nil => exact .pure ⟨[], rfl, .done _⟩
  | cons i ids ih =>
    rw [List.mapM_cons]
    refine .bind (failure?_ensures ((delete_ensures s i).mono ?_))
    rintro r t ⟨faults, first⟩
    cases r with
    | ok _ =>
      refine .bind ((ih t).mono ?_)
      rintro _ u ⟨failures, rfl, rest⟩
      exact .pure ⟨none :: failures, rfl, .deleted first (faults ▸ rest)⟩
    | error e =>
      refine .bind ((ih t).mono ?_)
      rintro _ u ⟨failures, rfl, rest⟩
      exact .pure ⟨some e :: failures, rfl, .failed first (faults ▸ rest)⟩

theorem deleteAll_ensures (s : Service Memory) :
    deleteAll.Ensures s fun r t => ∃ es,
      DeletingAll s.base.faults.MayFail s.snapshot s.registry.ids es t.snapshot ∧
        r = match ServiceError.aggregate? es with
          | none => .ok ()
          | some e => .error e := by
  refine .get_bind (.bind ((deleteEach_ensures s.registry.ids s).mono ?_))
  rintro _ t ⟨failures, rfl, steps⟩
  dsimp only [Ensures.Then, throwAll]
  split
  · rename_i none
    exact .pure ⟨_, steps, by rw [none]⟩
  · rename_i e some
    exact .throw ⟨_, steps, by rw [some]⟩

end EdgeControl.Balancer.Service
