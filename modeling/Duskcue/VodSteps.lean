import Duskcue.ReceiptSteps

/-! What the statements on the VOD tables do, as steps, and what the statements on
all outputs and operations of a viewer leave behind. -/
namespace Duskcue.Playback
open Transaction Relation

/-! ## Commands -/

variable {id : Uuid}

theorem insertCommand_yields (ran : Yields (insertCommand id row) s u s') :
    s.commands.find id = none ∧ s' = { s with commands := s.commands.put id row } := by
  simp only [insertCommand, playbackStartCommandBinding, playbackVodCommandGuardInsert, bind_assoc,
    yields_get_bind, yields_require_bind, yields_modify, Bool.and_eq_true] at ran
  obtain ⟨-, -, -, ⟨absent, -⟩, rfl⟩ := ran
  exact ⟨Option.isNone_iff_eq_none.mp absent, rfl⟩

theorem updateCommand_yields (ran : Yields (updateCommand id assign) s u s') :
    Steps s s' ∧ ∃ commands, s' = { s with commands } := by
  simp only [updateCommand, yields_get_bind] at ran
  cases found : s.commands.find id with
  | none =>
    simp only [found, yields_pure] at ran
    obtain ⟨-, rfl⟩ := ran
    exact ⟨.refl, s'.commands, rfl⟩
  | some =>
    simp only [found, playbackVodCommandGuardUpdate, playbackVodProtocolGuard, yields_get_bind,
      yields_require_bind, yields_modify, decide_eq_true_eq] at ran
    obtain ⟨⟨same, -⟩, -, -, -, rfl⟩ := ran
    exact ⟨.single (.command found same), _, rfl⟩

theorem updateCommand_steps (id : Uuid) (assign : Command → Command) : Within Step (updateCommand id assign) :=
  fun _ _ _ ran => (updateCommand_yields ran).1

/-! ## Controls -/

instance (old new : Control) : Decidable (old.Changed new) := inferInstanceAs (Decidable (_ ∨ _))

theorem playbackVodControlGuardOutputs_yields (ran : Yields (playbackVodControlGuardOutputs id new) s u s') :
    s' = s ∧ (∀ output, new.currentOutput = some output →
        ∃ o, s.outputs.find output = some o ∧ o.reservationId = id) ∧
      (new.claimEncodes = false → ∀ output o, s.outputs.find output = some o →
        o.reservationId = id → o.encodes = true → o.resourcesCompleted = true) ∧
      (new.claimEncodes = false → new.state ≠ .retiring → ∀ output o,
        new.currentOutput = some output → s.outputs.find output = some o → o.encodes = false) ∧
      (new.state = .ready → new.pendingOperation = none ∧ ∃ output o,
        new.currentOutput = some output ∧ s.outputs.find output = some o ∧ o.state = .ready ∧
          o.publishedAt.isSome = true) := by
  simp only [playbackVodControlGuardOutputs, yields_get_bind, yields_require_bind, yields_require] at ran
  obtain ⟨attributed, owed, ready, rfl⟩ := ran
  refine ⟨rfl, ?_, ?_, ?_, ?_⟩
  · intro output pointed
    simpa [pointed, Store.currentOf, Option.any_eq_true] using attributed
  · intro unclaimed output o found owned encodes
    simp only [unclaimed, Bool.false_or, Bool.and_eq_true, Bool.not_eq_true', Store.owesEncoder,
      Table.holds_eq_false] at owed
    simpa [owned, encodes] using owed.1 output o found
  · intro unclaimed unretired output o pointed found
    simp only [unclaimed, Bool.false_or, Bool.and_eq_true, Store.currentOf, pointed, Option.bind_some, found] at owed
    simpa [unretired] using owed.2
  · intro served
    simp only [served, Store.currentOf, ne_eq, not_true_eq_false, decide_false, Bool.false_or,
      Bool.and_eq_true, Option.isNone_iff_eq_none, Option.any_eq_true, Option.bind_eq_some_iff] at ready
    obtain ⟨idle, o, ⟨output, pointed, found⟩, ⟨state, published⟩, -⟩ := ready
    exact ⟨idle, output, o, pointed, found, of_decide_eq_true state, published⟩

theorem playbackVodControlGuardRevision_yields (ran : Yields (playbackVodControlGuardRevision old new) s row s') :
    s' = s ∧ row = { new with revision := row.revision } ∧
      (old.Changed new → row.revision = old.revision + 1) ∧
      (¬ old.Changed new → row.revision = new.revision) ∧ old.CheckpointFollows new := by
  simp only [playbackVodControlGuardRevision, yields_get_bind, yields_require_bind] at ran
  obtain ⟨-, ran⟩ := ran
  have last : ∀ {s s' : Store} {row : Control}, Yields (if old.Changed new then
      (pure { new with revision := old.revision + 1 } : Tx Control) else pure new) s row s' →
      s' = s ∧ row = { new with revision := row.revision } ∧
        (old.Changed new → row.revision = old.revision + 1) ∧
        (¬ old.Changed new → row.revision = new.revision) := by
    intro s s' row ran
    split at ran
    · rename_i changed
      obtain ⟨rfl, rfl⟩ := yields_pure.mp ran
      exact ⟨rfl, rfl, fun _ => rfl, fun same => absurd changed same⟩
    · rename_i same
      obtain ⟨rfl, rfl⟩ := yields_pure.mp ran
      exact ⟨rfl, rfl, fun changed => absurd changed same, fun _ => rfl⟩
  split at ran
  · split at ran
    · rename_i replaced
      obtain ⟨empty, ran⟩ := yields_require_bind.mp ran
      obtain ⟨same, shape, changed, unchanged⟩ := last ran
      exact ⟨same, shape, changed, unchanged, .inr (.inl ⟨replaced, of_decide_eq_true empty⟩)⟩
    · rename_i kept
      obtain ⟨later, ran⟩ := yields_require_bind.mp ran
      obtain ⟨same, shape, changed, unchanged⟩ := last ran
      refine ⟨same, shape, changed, unchanged, .inr (.inr ⟨not_not.mp kept, ?_⟩)⟩
      simpa [and_assoc] using later
  · rename_i same
    obtain ⟨unread, shape, changed, unchanged⟩ := last ran
    refine ⟨unread, shape, changed, unchanged, .inl ?_⟩
    simpa [Control.SameCheckpoint] using same

theorem playbackVodControlGuardCapacity_yields (ran : Yields (playbackVodControlGuardCapacity id) s u s') :
    s' = s ∧ ∃ r policy, s.reservations.find id = some r ∧
      playbackVodPolicy s.directory r.householdId = some policy ∧
      ∀ cap, policy.transcode = some cap → (s.otherEncoders r.householdId id : Int) < cap := by
  simp only [playbackVodControlGuardCapacity, yields_get_bind, yields_require_bind, yields_require] at ran
  obtain ⟨permitted, room, same⟩ := ran
  cases found : s.reservations.find id with
  | none => simp [found] at permitted
  | some r =>
    cases known : playbackVodPolicy s.directory r.householdId with
    | none => simp [found, known] at permitted
    | some policy =>
      refine ⟨same, r, policy, rfl, known, fun cap limited => ?_⟩
      simpa [found, known, limited] using room

/-- A control row as the guard returns it for an update. -/
structure ControlRevised (depth : Nat) (old new row : Control) : Prop where
  shape : row = { new with revision := row.revision }
  advances : old.regresses depth new = false
  changed : old.Changed new → row.revision = old.revision + 1
  unchanged : ¬ old.Changed new → row.revision = new.revision
  checkpoint : old.CheckpointFollows new

/-- The guard on any write: what it makes sure of does not depend on the revision. -/
theorem playbackVodControlGuard_yields
    (ran : Yields (playbackVodControlGuard depth id old new) s row s') (checks : row.checks = true) :
    s' = s ∧ ControlWrite s id old row ∧ (old = none → row = new ∧ new.initial = true) ∧
      ∀ before, old = some before → ControlRevised depth before new row := by
  have write : ∀ {row : Control}, row = { new with revision := row.revision } → row.checks = true →
      Yields (playbackVodControlGuardOutputs id new) s () s →
      (new.claimEncodes = true → ¬ old.any Control.claimEncodes = true →
        Yields (playbackVodControlGuardCapacity id) s () s) → ControlWrite s id old row := by
    intro row shape checks judged counted
    obtain ⟨-, current, owed, encoded, ready⟩ := playbackVodControlGuardOutputs_yields judged
    have claims : row.claimEncodes = new.claimEncodes := by rw [shape]
    refine ⟨?_, ?_, ?_, ?_, ?_, checks⟩
    · rw [shape]
      exact current
    · rw [shape]
      exact owed
    · rw [shape]
      exact encoded
    · rw [shape]
      exact ready
    · intro taken free
      rw [claims] at taken
      refine (playbackVodControlGuardCapacity_yields (counted taken ?_)).2
      cases old with
      | none => simp
      | some v => simp [free v rfl]
  -- Only the capacity check remains after the row is settled.
  have last : ∀ {middle after : Store} {saved : Control},
      Yields (do
        if new.claimEncodes ∧ ¬ old.any Control.claimEncodes then playbackVodControlGuardCapacity id
        pure saved : Tx Control) middle row after →
      row = saved ∧ after = middle ∧ (new.claimEncodes = true → ¬ old.any Control.claimEncodes = true →
        Yields (playbackVodControlGuardCapacity id) middle () middle) := by
    intro middle after saved ran
    split at ran
    · obtain ⟨_, counted, capacity, kept⟩ := yields_bind.mp ran
      obtain ⟨rfl, -⟩ := playbackVodControlGuardCapacity_yields capacity
      obtain ⟨rfl, rfl⟩ := yields_pure.mp kept
      exact ⟨rfl, rfl, fun _ _ => capacity⟩
    · rename_i skipped
      obtain ⟨rfl, rfl⟩ := yields_pure.mp ran
      exact ⟨rfl, rfl, fun taken free => absurd ⟨taken, free⟩ skipped⟩
  cases old with
  | none =>
    simp only [playbackVodControlGuard, yields_require_bind] at ran
    obtain ⟨_, judged, outputs, rest⟩ := yields_bind.mp ran.2
    obtain ⟨same, -⟩ := playbackVodControlGuardOutputs_yields outputs
    rw [same] at outputs rest
    simp only [yields_pure_bind] at rest
    obtain ⟨rfl, rfl, counted⟩ := last rest
    exact ⟨rfl, write rfl checks outputs counted, fun _ => ⟨rfl, ran.1⟩, by simp⟩
  | some =>
    simp only [playbackVodControlGuard, yields_require_bind, Bool.not_eq_true'] at ran
    obtain ⟨_, judged, outputs, rest⟩ := yields_bind.mp ran.2
    obtain ⟨same, -⟩ := playbackVodControlGuardOutputs_yields outputs
    rw [same] at outputs rest
    obtain ⟨saved, revised, revision, settled⟩ := yields_bind.mp rest
    obtain ⟨kept, shape, changed, unchanged, checkpoint⟩ := playbackVodControlGuardRevision_yields revision
    rw [kept] at settled
    obtain ⟨rfl, rfl, counted⟩ := last settled
    refine ⟨rfl, write shape checks outputs counted, by simp, ?_⟩
    rintro _ ⟨⟩
    exact ⟨shape, ran.1, changed, unchanged, checkpoint⟩

/-- The insert of a control, as its statement leaves it; the viewer must not be released. -/
theorem insertControl_yields (ran : Yields (insertControl id row) s u s') :
    ((s.commands.find id).isSome = true ∧ s' = { s with
      controls := s.controls.put id row
      deferred := .control id :: s.deferred }) ∧
      ((∀ r, s.reservations.find id = some r → r.state ≠ .released) → Step s s') := by
  obtain ⟨saved, middle, guarded, ran⟩ := yields_bind.mp ran
  simp only [defer, yields_require_bind, yields_get_bind, yields_modify_bind, yields_modify] at ran
  obtain ⟨checks, absent, owner, rfl⟩ := ran
  obtain ⟨rfl, write, fresh, -⟩ := playbackVodControlGuard_yields guarded checks
  obtain ⟨rfl, initial⟩ := fresh rfl
  exact ⟨⟨owner, rfl⟩, .insertControl (Option.isNone_iff_eq_none.mp absent) owner initial write⟩

theorem updateControl_yields (ran : Yields (updateControl depth id assign) s found s') :
    s.controls.find id = none ∧ found = false ∧ s' = s ∨
      ∃ old new, s.controls.find id = some old ∧ found = true ∧ ControlWrite s id (some old) new ∧
        ControlRevised depth old (assign old) new ∧
        s' = { s with
          controls := s.controls.put id new
          deferred := .control id :: s.deferred } := by
  simp only [updateControl, yields_get_bind] at ran
  cases known : s.controls.find id with
  | none =>
    simp only [known, yields_pure] at ran
    exact .inl ⟨rfl, ran⟩
  | some old =>
    simp only [known] at ran
    obtain ⟨row, middle, guarded, ran⟩ := yields_bind.mp ran
    simp only [defer, yields_require_bind, yields_modify_bind, yields_pure] at ran
    obtain ⟨checks, rfl, rfl⟩ := ran
    obtain ⟨rfl, write, -, revised⟩ := playbackVodControlGuard_yields guarded checks
    exact .inr ⟨old, row, rfl, rfl, write, revised old rfl, rfl⟩

/-! ## Outputs -/

/-- The insert of an output; operations that name it as their candidate have to be
queued already. -/
theorem insertOutputRow_yields (ran : Yields (insertOutputRow id row) s u s') :
    s.outputs.find id = none ∧ ∃ clock ticks, s.clock ≤ clock ∧
      s' = { s.moved clock ticks with
        outputs := s.outputs.put id row
        deferred := .output row.reservationId id :: s.deferred } ∧
      ((∀ operation p, s.operations.find operation = some p → p.candidateOutput = id →
        .operation p.reservationId operation ∈ s.deferred) →
        (∀ operation, row.operationId = some operation → ∃ p,
          s.operations.find operation = some p ∧ p.reservationId = row.reservationId ∧
            p.candidateOutput = id ∧ p.cleanupAt = none) →
        OutputInsertion (s.moved clock ticks) id row) := by
  simp only [insertOutputRow, playbackVodOutputGuardInsert, defer, bind_assoc, yields_get_bind,
    yields_clock_bind, yields_require_bind, yields_modify_bind, yields_modify, Bool.and_eq_true,
    decide_eq_true_eq, Bool.not_eq_true', Option.isNone_iff_eq_none, Option.any_eq_true] at ran
  obtain ⟨⟨⟨⟨⟨held, preparing⟩, incomplete⟩, unpublished⟩, -⟩, checks, ⟨absent, -⟩, owner, rfl⟩ := ran
  exact ⟨absent, _, _, clock_le_tick s, rfl, fun candidates linked =>
    ⟨absent, owner, held, ⟨preparing, incomplete, unpublished⟩, checks, candidates, linked⟩⟩

theorem playbackVodOutputGuardUpdate_yields (ran : Yields (playbackVodOutputGuardUpdate old new) s row s') :
    Ticked s s' ∧ old.SameAttribution row ∧
      row = { new with publishedAt := row.publishedAt, completedAt := row.completedAt } ∧
      (old.result.isSome = true → row.result = old.result ∧ row.publishedAt = old.publishedAt) ∧
      (old.resourcesCompleted = true → row.resourcesCompleted = true) ∧
      (old.state = .retiring ∨ old.state = .complete →
        row.state = .retiring ∨ row.state = .complete) ∧
      (old.state = .ready → row.state ≠ .preparing) := by
  simp only [playbackVodOutputGuardUpdate, yields_require_bind, decide_eq_true_eq] at ran
  obtain ⟨⟨same, published, completed, -, -, forward, served, -⟩, ran⟩ := ran
  obtain ⟨publishedAt, middle, first, rest⟩ := yields_bind.mp ran
  obtain ⟨completedAt, after, second, last⟩ := yields_bind.mp rest
  obtain ⟨rfl, rfl⟩ := yields_pure.mp last
  have early := stamp_yields first
  refine ⟨early.1.trans (stamp_yields second).1, ?_, rfl, ?_, ?_, ?_, ?_⟩
  · unfold OutputRow.SameAttribution at same ⊢
    rw [same]
  · intro known
    have kept : publishedAt = new.publishedAt := by
      refine early.2.1 ?_
      simp [known]
    rw [kept]
    simpa [known] using published
  · simpa using completed
  · exact fun before => not_not.mp fun stays => forward ⟨before, stays⟩
  · simpa using served

/-- An update of an output: a ready control must not point at one that starts to
retire. -/
theorem updateOutput_yields (ran : Yields (updateOutput id chosen assign) s changed s') :
    (changed = false ∧ s' = s ∧ ∀ old, s.outputs.find id = some old → chosen old = false) ∨
      ∃ old new clock ticks, s.clock ≤ clock ∧ changed = true ∧ s.outputs.find id = some old ∧
        chosen old = true ∧
        new = { assign old with publishedAt := new.publishedAt, completedAt := new.completedAt } ∧
        s' = { s.moved clock ticks with
          outputs := s.outputs.put id new
          deferred := .output new.reservationId id :: s.deferred } ∧
        ((new.state = .retiring → old.state = .retiring ∨
          ∀ viewer v, s.controls.find viewer = some v → v.currentOutput = some id →
            v.state ≠ .ready) → OutputUpdate (s.moved clock ticks) id old new) := by
  simp only [updateOutput, yields_get_bind] at ran
  cases found : s.outputs.find id with
  | none =>
    simp only [found, yields_pure] at ran
    exact .inl ⟨ran.1, ran.2, by simp⟩
  | some old =>
    simp only [found] at ran
    split at ran
    · rename_i selected
      obtain ⟨row, middle, triggered, rest⟩ := yields_bind.mp ran
      simp only [defer, yields_require_bind, yields_modify_bind, yields_pure] at rest
      obtain ⟨checks, rfl, rfl⟩ := rest
      obtain ⟨⟨clock, ticks, later, rfl⟩, same, shape, published, completed, forward, served⟩ :=
        playbackVodOutputGuardUpdate_yields triggered
      exact .inr ⟨old, row, clock, ticks, later, rfl, rfl, selected, shape, rfl, fun retired =>
        ⟨found, same, published, completed, forward, served, checks, retired⟩⟩
    · rename_i skipped
      obtain ⟨rfl, rfl⟩ := yields_pure.mp ran
      refine .inl ⟨rfl, rfl, ?_⟩
      rintro _ ⟨⟩
      simpa using skipped

theorem updateOutput_steps (kept : ∀ o, (assign o).state = .retiring → o.state = .retiring) :
    Within Step (updateOutput id chosen assign) := by
  intro s changed s' ran
  obtain ⟨-, rfl, -⟩ | ⟨old, new, clock, ticks, later, -, -, -, shape, rfl, update⟩ := updateOutput_yields ran
  · exact .refl
  · have retired : new.state = .retiring → old.state = .retiring := by
      rw [shape]
      exact kept old
    exact .head (.tick ticks later) (.single (.updateOutput (update fun state => .inl (retired state))))

theorem deleteOutput_steps (id : Uuid) : Within Step (deleteOutput id) := by
  intro s u s' ran
  simp only [deleteOutput, yields_get_bind] at ran
  cases found : s.outputs.find id with
  | none =>
    simp only [found, yields_pure] at ran
    rw [ran.2]
  | some =>
    simp only [found, playbackVodOutputGuardDelete, bind_assoc, yields_clock_bind, yields_get_bind,
      yields_require_bind, yields_modify, Bool.or_eq_true, Bool.and_eq_true, Bool.not_eq_true',
      Table.holds_eq_false, Bool.or_eq_false_iff, decide_eq_false_iff_not] at ran
    obtain ⟨deletable, rfl⟩ := ran
    refine (ticked_tick s).steps.tail (.deleteOutput found fun rooted => ?_)
    obtain orphan | ⟨⟨⟨-, completed⟩, -⟩, unreferenced⟩ := deletable
    · rw [Option.isNone_iff_eq_none] at orphan
      rw [orphan] at rooted
      cases rooted
    · exact ⟨completed, fun viewer v known => (unreferenced viewer v known).1⟩

/-! ## Operations -/

theorem updateOperationRetention_yields (ran : Yields (updateOperationRetention depth assign) s u s') :
    s.operationRetention.cutoff ≤ (assign s.operationRetention).cutoff ∧
      0 ≤ (assign s.operationRetention).retainedCount ∧
      s' = { s with operationRetention := assign s.operationRetention } := by
  simp only [updateOperationRetention, playbackVodOperationRetentionGuard, yields_get_bind,
    yields_require_bind, yields_modify, decide_eq_true_eq] at ran
  exact ⟨ran.1.1, ran.2.1.1, ran.2.2⟩

/-- The account trigger counts at the retention row and at the viewer's control,
whose revision it leaves alone. -/
theorem playbackVodOperationAccount_yields (ran : Yields (playbackVodOperationAccount change viewer) s u s') :
    ∃ v, s.controls.find viewer = some v ∧ 0 ≤ s.operationRetention.retainedCount + change ∧
      0 ≤ v.retainedOperations + change ∧
      s' = { s.withOperations s.operationRetention.cutoff change with
        controls := s.controls.put viewer
          { v with retainedOperations := v.retainedOperations + change }
        deferred := .control viewer :: s.deferred } := by
  obtain ⟨_, counted, retention, rest⟩ := yields_bind.mp ran
  obtain ⟨found, after, updated, last⟩ := yields_bind.mp rest
  obtain ⟨found, rfl⟩ := yields_require.mp last
  obtain ⟨-, positive, rfl⟩ := updateOperationRetention_yields retention
  obtain ⟨-, absent, -⟩ | ⟨v, row, known, -, write, revised, rfl⟩ := updateControl_yields updated
  · rw [absent] at found
    cases found
  · have same : row = { v with retainedOperations := v.retainedOperations + change } := by
      have revision : row.revision = v.revision := revised.unchanged (by simp [Control.Changed])
      rw [revised.shape, revision]
    subst same
    have checks := write.checks
    simp only [Control.checks, Bool.and_eq_true, decide_eq_true_eq] at checks
    obtain ⟨⟨⟨⟨⟨⟨-, counted⟩, -⟩, -⟩, -⟩, -⟩, -⟩ := checks
    exact ⟨v, known, positive, counted, rfl⟩

theorem playbackVodOperationGuardInsert_yields (ran : Yields (playbackVodOperationGuardInsert id new) s row s') :
    row = { new with createdAt := row.createdAt } ∧ row.state = .accepted ∧ row.cleanupAt = none ∧
      Timely s.operationRetention.cutoff id ∧ Recent s'.clock id ∧
      (∃ r, s.reservations.find row.reservationId = some r ∧ r.state = .held) ∧
      (∃ v, s.controls.find row.reservationId = some v ∧ v.pendingOperation = none ∧
        v.currentOutput = some row.expectedOutput ∧ v.retainedOperations < 256) ∧
      s.operationRetention.retainedCount < 131072 ∧
      ∃ clock ticks cutoff, s.clock ≤ clock ∧ s.operationRetention.cutoff ≤ cutoff ∧
        s' = (s.moved clock ticks).withOperations cutoff 0 := by
  simp only [playbackVodOperationGuardInsert, yields_get_bind, yields_require_bind, Bool.and_eq_true,
    Option.any_eq_true, decide_eq_true_eq, Option.isNone_iff_eq_none] at ran
  obtain ⟨⟨⟨⟨⟨⟨⟨⟨r, admitted, -, held⟩, -⟩, accepted⟩, -⟩, uncleaned⟩, -⟩, -⟩, ran⟩ := ran
  cases known : s.controls.find new.reservationId with
  | none => simp [known] at ran
  | some v =>
    simp only [known, refuseOperationTiming, bind_assoc, yields_require_bind, yields_clock_bind,
      Bool.and_eq_true, decide_eq_true_eq, Option.isNone_iff_eq_none] at ran
    obtain ⟨⟨⟨expected, idle⟩, -⟩, -, -, timing, ⟨⟨retained, -⟩, total⟩, rest⟩ := ran
    obtain ⟨_, middle, retention, last⟩ := yields_bind.mp rest
    obtain ⟨later, -, rfl⟩ := updateOperationRetention_yields retention
    simp only [yields_clock_bind, yields_pure] at last
    obtain ⟨rfl, rfl⟩ := last
    refine ⟨rfl, accepted, uncleaned, timely_of_timing timing,
      ((recent_of_timing timing).mono (clock_le_tick _)).mono (clock_le_tick _), ⟨r, admitted, held⟩,
      ⟨v, known, idle, expected, retained⟩, total, s.tick.tick.tick.clock, s.tick.tick.tick.ticks, _, ?_, later, ?_⟩
    · exact ((clock_le_tick s).trans (clock_le_tick _)).trans (clock_le_tick _)
    · simp [Store.withOperations, Store.moved, Store.tick]

theorem insertOperation_yields (ran : Yields (insertOperation id row) s u s') :
    ∃ saved control clock ticks cutoff, s.clock ≤ clock ∧
      OperationInsertion (s.moved clock ticks) id saved control ∧
      s.operationRetention.cutoff ≤ cutoff ∧ saved = { row with createdAt := saved.createdAt } ∧
      s' = { (s.moved clock ticks).withOperations cutoff 1 with
        operations := s.operations.put id saved
        controls := s.controls.put saved.reservationId
          { control with retainedOperations := control.retainedOperations + 1 }
        deferred := .operation saved.reservationId id :: .control saved.reservationId ::
          s.deferred } := by
  obtain ⟨saved, middle, triggered, rest⟩ := yields_bind.mp ran
  simp only [yields_require_bind, yields_get_bind, yields_modify_bind, Bool.and_eq_true,
    Option.isNone_iff_eq_none] at rest
  obtain ⟨checks, ⟨absent, alone⟩, rest⟩ := rest
  obtain ⟨_, counted, accounted, last⟩ := yields_bind.mp rest
  obtain ⟨shape, accepted, uncleaned, timely, recent, held, ⟨control, viewer, idle, expected, retained⟩,
    total, clock, ticks, cutoff, later, raised, rfl⟩ := playbackVodOperationGuardInsert_yields triggered
  obtain ⟨v, known, -, -, rfl⟩ := playbackVodOperationAccount_yields accounted
  cases viewer.symm.trans known
  refine ⟨saved, control, clock, ticks, cutoff, later, ?_, raised, shape, ?_⟩
  · refine ⟨absent, timely, accepted, held, viewer, idle, expected, ?_, ⟨retained, total⟩, checks, recent,
      uncleaned⟩
    have pending : saved.state.terminal = false := by
      rw [accepted]
      rfl
    simp only [Store.operationUnique, pending, Bool.false_or, Bool.not_eq_true', Table.holds_eq_false] at alone
    intro operation p found owned
    have other : operation ≠ id := by
      rintro rfl
      cases absent.symm.trans found
    simpa [other, owned] using alone operation p found
  · simpa [Store.withOperations, Store.moved, defer] using last

theorem playbackVodOperationGuardUpdate_yields (ran : Yields (playbackVodOperationGuardUpdate id old new) s row s') :
    Ticked s s' ∧ old.SameAttribution row ∧
      row = { new with
        terminalAt := row.terminalAt, cleanupAt := row.cleanupAt, pruneAfter := row.pruneAfter } ∧
      (old.terminalAt.isSome = true →
        row.state = old.state ∧ row.terminalAt = old.terminalAt ∧ row.result = old.result) ∧
      (old.state = .uncertain → row.state = .uncertain ∨ row.state = .cancelled) ∧
      (old.state = .retiring ∨ old.state = .preparing → row.state ≠ .accepted) ∧
      (old.state = .preparing → row.state ≠ .retiring) ∧
      (∀ time, row.terminalAt = some time → new.terminalAt = some time ∨ s.clock ≤ time) ∧
      (∀ time, row.pruneAfter = some time → ∃ ended, row.terminalAt = some ended ∧
        ended + 24 * hour ≤ time) ∧
      (row.cleanupAt.isSome = true → ∀ output o, s.outputs.find output = some o →
        o.operationId = some id → o.resourcesCompleted = true) := by
  simp only [playbackVodOperationGuardUpdate, yields_require_bind, decide_eq_true_eq] at ran
  obtain ⟨⟨same, ended, -, uncertain, started, preparing⟩, ran⟩ := ran
  obtain ⟨terminalAt, middle, first, rest⟩ := yields_bind.mp ran
  simp only [yields_get_bind, yields_require_bind] at rest
  obtain ⟨clean, rest⟩ := rest
  obtain ⟨cleanupAt, after, second, last⟩ := yields_bind.mp rest
  obtain ⟨rfl, rfl⟩ := yields_pure.mp last
  have early := stamp_yields first
  have late := stamp_yields second
  refine ⟨early.1.trans late.1, ?_, rfl, ?_, ?_, ?_, ?_, ?_, ?_, ?_⟩
  · unfold Operation.SameAttribution at same ⊢
    rw [same]
  · intro known
    have kept : terminalAt = new.terminalAt := by
      refine early.2.1 ?_
      simp [known]
    rw [kept]
    simpa [known] using ended
  · intro before
    simpa [before, or_iff_not_imp_left] using uncertain
  · exact fun before accepted => started ⟨before, accepted⟩
  · exact fun before retiring => preparing ⟨before, retiring⟩
  · rintro time rfl
    cases fresh : (new.state.terminal && old.terminalAt.isNone) with
    | false => exact .inl (early.2.1 fresh).symm
    | true =>
      obtain ⟨stamped, same, later⟩ := early.2.2 fresh
      exact .inr (Option.some.inj same ▸ later)
  · intro time prunes
    cases terminalAt with
    | none => cases prunes
    | some ended =>
      cases cleanupAt with
      | none => cases prunes
      | some =>
        cases prunes
        exact ⟨ended, rfl, Int.add_le_add_right (le_max_left _ _) _⟩
  · intro cleaned output o found linked
    have asked : new.cleanupAt.isNone = false := by
      cases given : new.cleanupAt with
      | some => rfl
      | none =>
        have kept := late.2.1 (by simp [given])
        simp only [kept, given, Option.isSome_none, Bool.false_eq_true] at cleaned
    obtain ⟨clock, ticks, -, rfl⟩ := early.1
    simp only [asked, Bool.false_or, Bool.not_eq_true', Table.holds_eq_false] at clean
    simpa [linked] using clean output o found

theorem updateOperation_yields (ran : Yields (updateOperation id chosen assign) s u s') :
    (s' = s ∧ ∀ old, s.operations.find id = some old → chosen old = false) ∨
      ∃ old new clock ticks, s.clock ≤ clock ∧ s.operations.find id = some old ∧ chosen old = true ∧
        new = { assign old with
          terminalAt := new.terminalAt, cleanupAt := new.cleanupAt, pruneAfter := new.pruneAfter } ∧
        s' = { s.moved clock ticks with
          operations := s.operations.put id new
          deferred := .operation new.reservationId id :: s.deferred } ∧
        ((new.state = .uncertain → old.state = .uncertain) →
          ((assign old).terminalAt = old.terminalAt) → OperationUpdate s id old new) := by
  simp only [updateOperation, yields_get_bind] at ran
  cases found : s.operations.find id with
  | none =>
    simp only [found, yields_pure] at ran
    exact .inl ⟨ran.2, by simp⟩
  | some old =>
    simp only [found] at ran
    split at ran
    · rename_i selected
      obtain ⟨row, middle, triggered, rest⟩ := yields_bind.mp ran
      simp only [defer, yields_require_bind, yields_get_bind, yields_modify_bind, yields_modify] at rest
      obtain ⟨checks, -, rfl⟩ := rest
      obtain ⟨⟨clock, ticks, later, rfl⟩, same, shape, ended, uncertain, started, preparing, stamped,
        prunes, cleaned⟩ := playbackVodOperationGuardUpdate_yields triggered
      exact .inr ⟨old, row, clock, ticks, later, rfl, selected, shape, rfl, fun certain unassigned =>
        ⟨found, same, ended, uncertain, started, preparing, certain, checks, unassigned ▸ stamped, prunes,
          cleaned⟩⟩
    · rename_i skipped
      obtain ⟨rfl, rfl⟩ := yields_pure.mp ran
      refine .inl ⟨rfl, ?_⟩
      rintro _ ⟨⟩
      simpa using skipped

theorem updateOperation_steps (certain : ∀ p, (assign p).state = .uncertain → p.state = .uncertain)
    (unassigned : ∀ p, (assign p).terminalAt = p.terminalAt) :
    Within Step (updateOperation id chosen assign) := by
  intro s u s' ran
  obtain ⟨rfl, -⟩ | ⟨old, new, clock, ticks, later, -, -, shape, rfl, update⟩ := updateOperation_yields ran
  · exact .refl
  · have certain : new.state = .uncertain → old.state = .uncertain := by
      rw [shape]
      exact certain old
    exact .head (.updateOperation (update certain (unassigned old))) (.single (.tick ticks later))

theorem deleteOperation_steps (id : Uuid) : Within Step (deleteOperation id) := by
  intro s u s' ran
  simp only [deleteOperation, yields_get_bind] at ran
  cases found : s.operations.find id with
  | none =>
    simp only [found, yields_pure] at ran
    rw [ran.2]
  | some =>
    simp only [found, playbackVodOperationGuardDelete, bind_assoc, yields_clock_bind, yields_get_bind,
      yields_require_bind, yields_modify_bind, Bool.and_eq_true, Bool.not_eq_true', decide_eq_true_eq,
      Table.holds_eq_false, decide_eq_false_iff_not] at ran
    obtain ⟨⟨⟨-, unlinked⟩, unreferenced⟩, expired, accounted⟩ := ran
    obtain ⟨control, viewer, total, retained, rfl⟩ := playbackVodOperationAccount_yields accounted
    refine (ticked_tick s).steps.tail (.deleteOperation ?_)
    have total : 0 ≤ s.tick.operationRetention.retainedCount + -1 := total
    exact ⟨found, not_timely expired, unreferenced, viewer, ⟨by omega, by omega⟩, unlinked⟩

/-! ## Statements on everything a viewer owns -/

variable {s : Store}

/-- The update of a control that the server's own statements make: they leave the
revision and the operation count to the triggers. -/
theorem ControlRevised.update (revised : ControlRevised 1 old new row) (found : s.controls.find id = some old)
    (write : ControlWrite s id (some old) row) (revision : new.revision = old.revision)
    (pending : new.pendingOperation = old.pendingOperation ∨ old.pendingOperation = none ∨
      new.pendingOperation = none ∧ ∀ operation p, s.operations.find operation = some p →
        p.reservationId = id → p.state.terminal = true)
    (changing : new.pendingOperation.isSome = true → new.state = .changing ∨
      new.state = old.state ∧ new.pendingOperation = old.pendingOperation)
    (replaced : ∀ operation, new.pendingOperation = some operation →
      (old.pendingOperation = some operation ∧ (new.currentOutput = old.currentOutput ∨
        ∀ r, s.reservations.find id = some r → r.state = .released)) ∨
      ∃ p, s.operations.find operation = some p ∧ new.currentOutput = some p.expectedOutput)
    (cleared : new.currentOutput = old.currentOutput ∨ new.checkpointSequence = 0) :
    ControlUpdate s id old row := by
  have advances := revised.advances
  simp only [Control.regresses, Bool.or_eq_false_iff, Bool.and_eq_false_iff, decide_eq_false_iff_not,
    ne_eq, not_not] at advances
  obtain ⟨⟨⟨⟨⟨⟨⟨-, counted⟩, retires⟩, -⟩, attempts⟩, exhausted⟩, restarted⟩, skipped⟩ := advances
  have later : old.revision ≤ row.revision := by
    by_cases changed : old.Changed new
    · have := revised.changed changed
      omega
    · rw [revised.unchanged changed, revision]
  have shape := revised.shape
  rw [shape] at write ⊢
  exact ⟨found, write, later, fun differs => lt_of_lt_of_eq (lt_add_one _) (revised.changed differs).symm,
    ⟨not_lt.mp attempts, by grind, by grind, by grind⟩, by simpa using counted,
    fun before => retires.resolve_left (not_not.mpr before), pending, changing, replaced, revised.checkpoint, cleared⟩

variable {s' : Store} {u : Unit}

/-- What the loop over a viewer's operations does with one of them. -/
theorem cancelOperation_yields
    (ran : Yields (do
      let now ← clockTimestamp
      updateOperation id (fun _ => true) fun p =>
        { p with
          state := if p.terminalAt.isNone then .cancelled else p.state
          cleanupAt := some (p.cleanupAt.getD now) }) s u s') :
    Steps s s' ∧ (∀ p, s'.operations.find id = some p → p.state.terminal = true) ∧
      (∀ other, other ≠ id → s'.operations.find other = s.operations.find other) ∧
      ∀ other p, s'.operations.find other = some p →
        ∃ q, s.operations.find other = some q ∧ q.reservationId = p.reservationId := by
  rw [yields_clock_bind] at ran
  obtain ⟨rfl, skipped⟩ | ⟨old, new, clock, ticks, later, found, -, shape, rfl, update⟩ :=
    updateOperation_yields ran
  · refine ⟨(ticked_tick s).steps, fun p found => ?_, fun _ _ => rfl, fun other p found => ⟨p, found, rfl⟩⟩
    cases skipped p found
  · have certain : new.state = .uncertain → old.state = .uncertain := by
      rw [shape]
      cases old.terminalAt <;> simp
    have update := update certain rfl
    have terminal : new.state.terminal = true := by
      have checks := update.checks
      simp only [Operation.checks, Bool.and_eq_true, beq_iff_eq] at checks
      cases ended : old.terminalAt with
      | none =>
        rw [shape]
        simp [ended, OperationState.terminal]
      | some =>
        rw [checks.1.2, (update.ended (by simp [ended])).2.1, ended]
        rfl
    have owner : old.reservationId = new.reservationId := by rw [shape]
    refine ⟨(ticked_tick s).steps.trans (.head (.updateOperation update)
      (.single (.tick ticks later))), ?_, ?_, ?_⟩
    · intro p written
      cases (Table.find_put_self ..).symm.trans written
      exact terminal
    · exact fun other apart => Table.find_put_ne apart
    · intro other p written
      by_cases same : other = id
      · subst same
        cases (Table.find_put_self ..).symm.trans written
        exact ⟨old, found, owner⟩
      · exact ⟨p, (Table.find_put_ne same).symm.trans written, rfl⟩

/-- Everything a viewer owns is completed before its control drops the pending
operation, so no step before COMMIT leaves one behind. -/
theorem playbackVodCompleteOutputs_steps (viewer : Uuid) : Within Step (playbackVodCompleteOutputs viewer) := by
  intro s u s' ran
  simp only [playbackVodCompleteOutputs, yields_get_bind] at ran
  obtain ⟨_, completed, outputs, rest⟩ := yields_bind.mp ran
  obtain ⟨_, cancelled, operations, rest⟩ := yields_bind.mp rest
  obtain ⟨found, after, updated, last⟩ := yields_bind.mp rest
  obtain ⟨-, rfl⟩ := yields_pure.mp last
  have first : Steps s completed ∧ completed.operations = s.operations := by
    refine forEach_preserves (fun t => Steps s t ∧ t.operations = s.operations) ?_ outputs ⟨.refl, rfl⟩
    rintro id - t _ t' visited ⟨steps, same⟩
    obtain ⟨changed, _, visited, last⟩ := yields_bind.mp visited
    obtain ⟨-, rfl⟩ := yields_pure.mp last
    refine ⟨steps.trans (updateOutput_steps (by simp) _ _ _ visited), ?_⟩
    obtain ⟨-, rfl, -⟩ | ⟨_, _, _, _, -, -, -, -, -, rfl, -⟩ := updateOutput_yields visited
    · exact same
    · exact same
  have second : Steps completed cancelled := by
    refine Within.forEach _ (fun id _ => ?_) _ _ _ operations
    exact fun _ _ _ visited => (cancelOperation_yields visited).1
  have ended : ∀ operation p, cancelled.operations.find operation = some p →
      p.reservationId = viewer → p.state.terminal = true := by
    have attributed := forEach_preserves (fun t => ∀ operation p,
      t.operations.find operation = some p →
        ∃ q, s.operations.find operation = some q ∧ q.reservationId = p.reservationId)
      (fun id _ t _ t' visited owned operation p found => by
        obtain ⟨q, found, same⟩ := (cancelOperation_yields visited).2.2.2 operation p found
        obtain ⟨r, found, same'⟩ := owned operation q found
        exact ⟨r, found, same'.trans same⟩) operations
      (fun operation p found => ⟨p, first.2 ▸ found, rfl⟩)
    have terminal := forEach_establishes (fun _ => True) (fun operation t =>
      ∀ p, t.operations.find operation = some p → p.state.terminal = true)
      (fun _ _ _ _ _ _ _ => trivial)
      (fun id _ _ _ _ visited _ => (cancelOperation_yields visited).2.1)
      (fun id _ operation t _ t' visited _ ended p found => by
        by_cases same : operation = id
        · subst same
          exact (cancelOperation_yields visited).2.1 p found
        · exact ended p ((cancelOperation_yields visited).2.2.1 operation same ▸ found)) operations trivial
    intro operation p found owned
    obtain ⟨q, known, same⟩ := attributed operation p found
    refine terminal operation (Table.mem_select.mpr ⟨q, known, ?_⟩) p found
    simp [same, owned]
  refine (first.1.trans second).trans ?_
  obtain ⟨-, -, rfl⟩ | ⟨old, new, known, -, write, revised, rfl⟩ := updateControl_yields updated
  · exact .refl
  · exact .single (.updateControl (revised.update known write rfl (.inr (.inr ⟨rfl, ended⟩))
      (by simp) (by simp) (.inl rfl)))

theorem completeOutput_tables (ran : Yields (do
      let _ ← updateOutput id (fun o => !o.resourcesCompleted) fun o =>
        { o with state := .complete, resourcesCompleted := true }) s u s') :
    s'.controls = s.controls ∧ s'.reservations = s.reservations := by
  obtain ⟨changed, _, visited, last⟩ := yields_bind.mp ran
  obtain ⟨-, rfl⟩ := yields_pure.mp last
  obtain ⟨-, rfl, -⟩ | ⟨_, _, _, _, -, -, -, -, -, rfl, -⟩ := updateOutput_yields visited
  · exact ⟨rfl, rfl⟩
  · exact ⟨rfl, rfl⟩

theorem cancelOperation_tables
    (ran : Yields (do
      let now ← clockTimestamp
      updateOperation id (fun _ => true) fun p =>
        { p with
          state := if p.terminalAt.isNone then .cancelled else p.state
          cleanupAt := some (p.cleanupAt.getD now) }) s u s') :
    s'.controls = s.controls ∧ s'.reservations = s.reservations := by
  rw [yields_clock_bind] at ran
  obtain ⟨rfl, -⟩ | ⟨_, _, _, _, -, -, -, -, rfl, -⟩ := updateOperation_yields ran
  · exact ⟨rfl, rfl⟩
  · exact ⟨rfl, rfl⟩

/-- Completing a viewer retires its control and no other, and writes no reservation. -/
theorem playbackVodCompleteOutputs_controls {viewer : Uuid}
    (ran : Yields (playbackVodCompleteOutputs viewer) s u s') :
    (∀ v, s'.controls.find viewer = some v → v.state = .retiring) ∧
      (∀ other, other ≠ viewer → s'.controls.find other = s.controls.find other) ∧
      s'.reservations = s.reservations := by
  simp only [playbackVodCompleteOutputs, yields_get_bind] at ran
  obtain ⟨_, completed, outputs, rest⟩ := yields_bind.mp ran
  obtain ⟨_, cancelled, operations, rest⟩ := yields_bind.mp rest
  obtain ⟨found, after, updated, last⟩ := yields_bind.mp rest
  obtain ⟨-, rfl⟩ := yields_pure.mp last
  have first : completed.controls = s.controls ∧ completed.reservations = s.reservations := by
    refine forEach_preserves (fun t => t.controls = s.controls ∧ t.reservations = s.reservations) ?_
      outputs ⟨rfl, rfl⟩
    rintro _ - _ _ _ visited ⟨controls, reservations⟩
    obtain ⟨same, same'⟩ := completeOutput_tables visited
    exact ⟨same.trans controls, same'.trans reservations⟩
  have second : cancelled.controls = s.controls ∧ cancelled.reservations = s.reservations := by
    refine forEach_preserves (fun t => t.controls = s.controls ∧ t.reservations = s.reservations) ?_
      operations first
    rintro _ - _ _ _ visited ⟨controls, reservations⟩
    obtain ⟨same, same'⟩ := cancelOperation_tables visited
    exact ⟨same.trans controls, same'.trans reservations⟩
  obtain ⟨absent, -, rfl⟩ | ⟨old, new, _, -, _, revised, rfl⟩ := updateControl_yields updated
  · refine ⟨fun v found => ?_, fun other _ => by rw [second.1], second.2⟩
    cases absent.symm.trans found
  · refine ⟨fun v found => ?_, fun other ne => ?_, second.2⟩
    · cases (Table.find_put_self ..).symm.trans found
      rw [revised.shape]
    · exact (Table.find_put_ne ne).trans (by rw [second.1])

end Duskcue.Playback
