import Duskcue.AdmissionSteps

/-! The transactions of `domains/playback/commands` as steps. Those that move a
pending operation rely on the invariants of a settled store, and the ones of an
execution on what its process remembers: see `Work.Tracks`. -/
namespace Duskcue.Playback
open Transaction Relation

/-! ## Start settlement -/

theorem intentActor_yields (ran : Yields (intentActor row scope) s u s') : s' = s ∧ row.householdId = scope.user := by
  simp only [intentActor, yields_liftExcept_bind, yields_expect, Bool.and_eq_true, decide_eq_true_eq] at ran
  obtain ⟨transport, -, matched, rfl⟩ := ran
  exact ⟨rfl, matched.1.1.1⟩

variable {id : Uuid} {s s' : Store}

theorem registerIntent_commits {hash : Hash}
    (ran : Yields (registerIntent instanceId scope session id hash) s fresh s') : Commits s s' := by
  obtain ⟨middle, acted, committed⟩ := transaction_yields ran
  refine ⟨middle, ?_, committed⟩
  simp only [rootContext, requireHousehold, compatible, bind_assoc, yields_get_bind,
    yields_expect_bind, yields_liftExcept_bind, Option.any_eq_true, Bool.and_eq_true,
    Bool.not_eq_true'] at acted
  obtain ⟨⟨i, registered, unfenced, -⟩, -, -, revision, -, -, rest⟩ := acted
  cases known : s.intents.find id with
  | some =>
    simp only [known] at rest
    obtain ⟨_, _, matched, rest⟩ := yields_bind.mp rest
    rw [(intentActor_yields matched).1] at rest
    simp only [yields_expect_bind, yields_pure] at rest
    rw [rest.2.2]
  | none =>
    simp only [known, yields_liftExcept_bind] at rest
    obtain ⟨transport, -, rest⟩ := rest
    obtain ⟨_, _, inserting, last⟩ := yields_bind.mp rest
    obtain ⟨-, rfl⟩ := yields_pure.mp last
    exact (insertIntent_yields inserting (.inl ⟨i, registered, unfenced⟩)).1

theorem completeIntent_commits {fence : Bool} (ran : Yields (completeIntent instanceId scope id fence) s u s') :
    Commits s s' := by
  obtain ⟨middle, acted, committed⟩ := transaction_yields ran
  refine ⟨middle, ?_, committed⟩
  simp only [yields_get_bind, yields_present_bind] at acted
  obtain ⟨saved, -, rest⟩ := acted
  obtain ⟨_, _, matched, rest⟩ := yields_bind.mp rest
  rw [(intentActor_yields matched).1] at rest
  rw [yields_expect_bind] at rest
  refine updateIntent_steps ?_ _ _ _ rest.2
  exact fun _ => rfl

/-- A withdrawal leaves a fenced intent, or an identity below the cutoff. -/
theorem withdrawUnknown_yields (ran : Yields (withdrawUnknown instanceId scope id) s u s') :
    Steps s s' ∧ s'.reservations = s.reservations ∧
      (s'.intents = s.intents ∨ (s'.intents.find id).isSome = true) := by
  simp only [withdrawUnknown, yields_clock_bind] at ran
  obtain ⟨_, raised, raising, rest⟩ := yields_bind.mp ran
  have step := raiseCutoff_step raising
  obtain ⟨-, rfl⟩ := updateRetention_yields raising
  have steps := (ticked_tick s).steps.tail step
  cases stamped : id.extractTimestamp with
  | none => simp [stamped] at rest
  | some =>
    simp only [stamped, yields_get_bind] at rest
    split at rest
    · obtain ⟨-, rfl⟩ := yields_pure.mp rest
      exact ⟨steps, rfl, .inl rfl⟩
    · rw [yields_liftExcept_bind] at rest
      obtain ⟨transport, -, inserting⟩ := rest
      obtain ⟨inserted, kept, there⟩ := insertIntent_yields inserting (.inr ⟨rfl, rfl⟩)
      exact ⟨steps.trans inserted, kept, .inr there⟩

theorem inspectedIntent_yields (ran : Yields (inspectedIntent instanceId scope id withdraw) s u s') :
    Steps s s' ∧ (s'.reservations.find id = none ∨ (s'.intents.find id).isSome = true) := by
  simp only [inspectedIntent, yields_get_bind] at ran
  cases known : s.intents.find id with
  | some =>
    simp only [known] at ran
    rw [(intentActor_yields ran).1]
    exact ⟨.refl, .inr (by simp [known])⟩
  | none =>
    simp only [known, yields_expect_bind, Option.isNone_iff_eq_none] at ran
    cases withdraw with
    | true =>
      obtain ⟨steps, kept, -⟩ := withdrawUnknown_yields ran.2
      exact ⟨steps, .inl (by rw [kept, ran.1])⟩
    | false =>
      obtain ⟨-, rfl⟩ := yields_pure.mp ran.2
      exact ⟨.refl, .inl ran.1⟩

theorem withdrawKnown_yields (ran : Yields (withdrawKnown scope id) s u s') :
    Steps s s' ∧ (s.reservations.find id = none → s'.reservations.find id = none) ∧
      ((s.intents.find id).isSome = true → (s'.intents.find id).isSome = true) := by
  have retired : ∀ t, Yields (do
      let found ← get
      if found.reservations.find id |>.any fun r => r.householdId = scope.user then
        retireReservation id) t u s' → Steps t s' ∧ s'.intents = t.intents ∧
      (t.reservations.find id = none → s'.reservations.find id = none) := by
    intro t retiring
    rw [yields_get_bind] at retiring
    split at retiring
    · rename_i owned
      obtain ⟨steps, intents, -⟩ := retireReservation_yields retiring
      exact ⟨steps, intents, fun absent => by simp [absent] at owned⟩
    · obtain ⟨-, rfl⟩ := yields_pure.mp retiring
      exact ⟨.refl, rfl, fun absent => absent⟩
  simp only [withdrawKnown, yields_get_bind] at ran
  split at ran
  · obtain ⟨_, fenced, fencing, rest⟩ := yields_bind.mp ran
    obtain ⟨steps, intents, absent⟩ := retired _ rest
    refine ⟨(fenceIntent_steps id _ _ _ fencing).trans steps, ?_, ?_⟩
    · intro before
      refine absent ?_
      obtain ⟨-, rfl⟩ | ⟨_, _, _, _, -, -, -, -, -, rfl⟩ := updateIntent_yields fencing <;> exact before
    · intro there
      rw [intents]
      obtain ⟨-, rfl⟩ | ⟨_, _, _, _, -, -, -, -, -, rfl⟩ := updateIntent_yields fencing
      · exact there
      · simp
  · obtain ⟨steps, intents, absent⟩ := retired s ran
    exact ⟨steps, absent, fun there => intents ▸ there⟩

/-- What a settled answer rests on. -/
def Ground (s : Store) (id : Uuid) : Prop :=
  (∃ i, s.intents.find id = some i ∧ i.settledAt.isSome = true) ∨
    s.intents.find id = none ∧ s.reservations.find id = none ∧ ¬ Timely s.retention.cutoff id

theorem settlementResponse_yields (ran : Yields (settlementResponse instanceId scope id) s response s')
    (attributed : s.reservations.find id = none ∨ (s.intents.find id).isSome = true) :
    Ticked s s' ∧ response.requestId = id ∧ (response.status = .settled → Ground s' id) := by
  simp only [settlementResponse, yields_clock_bind, yields_get_bind] at ran
  cases known : s.tick.intents.find id with
  | some saved =>
    simp only [known] at ran
    obtain ⟨_, _, matched, last⟩ := yields_bind.mp ran
    rw [(intentActor_yields matched).1] at last
    obtain ⟨rfl, rfl⟩ := yields_pure.mp last
    refine ⟨ticked_tick s, rfl, fun settled => .inl ⟨saved, known, ?_⟩⟩
    by_contra unsettled
    simp only [unsettled, false_and, if_false] at settled
    split at settled <;> cases settled
  | none =>
    cases stamped : id.extractTimestamp with
    | none => simp [known, stamped] at ran
    | some =>
      simp only [known, stamped] at ran
      split at ran
      · rename_i below
        obtain ⟨rfl, rfl⟩ := yields_pure.mp ran
        have unadmitted := attributed.resolve_right (by simp [show s.intents.find id = none from known])
        refine ⟨ticked_tick s, rfl, fun _ => .inr ⟨known, unadmitted, ?_⟩⟩
        rintro ⟨time, stamp, later⟩
        cases stamped.symm.trans stamp
        exact absurd below (not_lt.mpr later)
      · obtain ⟨rfl, rfl⟩ := yields_pure.mp ran
        exact ⟨ticked_tick s, rfl, by simp⟩

theorem inspect_commits (ran : Yields (inspect instanceId scope valid id withdraw) s response s') :
    Commits s s' ∧ response.requestId = id ∧ (response.status = .settled → Ground s' id) := by
  obtain ⟨middle, acted, committed⟩ := transaction_yields ran
  simp only [cleanupContext, requireHousehold, compatible, bind_assoc, yields_expect_bind,
    yields_get_bind] at acted
  obtain ⟨-, -, -, -, rest⟩ := acted
  obtain ⟨_, inspected, inspecting, rest⟩ := yields_bind.mp rest
  obtain ⟨steps, attributed⟩ := inspectedIntent_yields inspecting
  have answered : ∀ t, Steps s t → t.reservations.find id = none ∨ (t.intents.find id).isSome = true →
      Yields (settlementResponse instanceId scope id) t response middle →
      Commits s s' ∧ response.requestId = id ∧ (response.status = .settled → Ground s' id) := by
    intro t before attributed answering
    obtain ⟨ticked, named, ground⟩ := settlementResponse_yields answering attributed
    rw [committed.cleared]
    exact ⟨⟨middle, before.trans ticked.steps, committed.cleared ▸ committed⟩, named, ground⟩
  cases withdraw with
  | true =>
    simp only [if_true] at rest
    obtain ⟨_, withdrawn, withdrawing, answering⟩ := yields_bind.mp rest
    obtain ⟨more, unadmitted, there⟩ := withdrawKnown_yields withdrawing
    exact answered _ (steps.trans more) (attributed.imp unadmitted there) answering
  | false => exact answered _ steps attributed rest

/-! ## The viewer's outputs -/

/-- The clock moves on before the statements of a transaction. -/
theorem Settled.moved (settled : Settled s) (ticks : List Nat)
    (later : s.clock ≤ clock) : Settled (s.moved clock ticks) :=
  { settled with
    toConsistent := settled.toConsistent.step (.tick ticks later) }

/-- No operation of a settled store names an output that is not there. -/
theorem Settled.uncandidate (settled : Settled s) (absent : s.outputs.find output = none)
    (found : s.operations.find id = some p) : p.candidateOutput ≠ output := by
  rintro rfl
  obtain ⟨o, candidate, -⟩ := settled.candidate found
  cases absent.symm.trans candidate

theorem setup_commits (settled : Settled s)
    (ran : Yields (setup instanceId request binding authority output) s u s') : Commits s s' := by
  obtain ⟨clock, ticks, middle, later, acted, committed, -⟩ := activeSql_yields ran
  obtain ⟨_, inserted, inserting, controlling⟩ := yields_bind.mp acted
  obtain ⟨absent, clock', ticks', later', rfl, insertion⟩ := insertOutputRow_yields inserting
  have candidates : ∀ id p, s.operations.find id = some p → p.candidateOutput ≠ output.id :=
    fun id p found => (settled.moved ticks later).uncandidate absent found
  have linked : ∀ operation, output.operation = some operation → ∃ p,
      s.operations.find operation = some p ∧ p.reservationId = request.id ∧
        p.candidateOutput = output.id ∧ p.cleanupAt = none := by
    intro operation linked
    obtain ⟨owner, rfl⟩ := (insertControl_yields controlling).1
    obtain ⟨p, found, -, candidate⟩ := committed.linked request.id output.id
      (by simp) owner (Table.find_put_self ..) rfl linked
    exact absurd candidate (candidates operation p found)
  have insertion := insertion (fun id p found candidate => absurd candidate (candidates id p found)) linked
  have unreleased : ∀ r, s.reservations.find request.id = some r → r.state ≠ .released := by
    intro r found
    obtain ⟨row, known, held⟩ := insertion.held
    cases known.symm.trans found
    simp [held]
  exact ⟨middle, .head (.tick ticks later) (.head (.tick ticks' later') (.head
    (.insertOutput insertion) (.single ((insertControl_yields controlling).2 unreleased)))), committed⟩

theorem vodPolicy_reads {α : Type} {next : Policy → Tx α} {a : α}
    (ran : Yields (vodPolicy user >>= next) s a s') : ∃ policy, Yields (next policy) s a s' := by
  obtain ⟨policy, _, known, rest⟩ := yields_bind.mp ran
  rw [(vodPolicy_yields known).1] at rest
  exact ⟨policy, rest⟩

variable {control : Control} {request : Request} {u : Unit}

/-- What a publication finds: the pending operation prepares its candidate, or the
viewer has no operation yet. -/
theorem publishable_yields {evidence : Publication}
    (ran : Yields (publishable request output evidence control command) s u s') :
    s' = s ∧ (∀ id, output.operation = some id → control.pendingOperation = some id ∧
        ∃ p, s.operations.find id = some p ∧ p.state = .preparing) ∧
      (output.operation = none → control.state = .preparing) := by
  cases which : output.operation with
  | none =>
    simp only [publishable, which, yields_expect, Bool.and_eq_true, decide_eq_true_eq] at ran
    exact ⟨ran.2, by simp, fun _ => ran.1.1⟩
  | some =>
    simp only [publishable, which, yields_get_bind, yields_present_bind, yields_expect_bind,
      Bool.and_eq_true, decide_eq_true_eq] at ran
    obtain ⟨p, found, ⟨⟨pending, -⟩, preparing⟩, rest⟩ := ran
    refine ⟨?_, ?_, by simp⟩
    · split at rest
      · obtain ⟨policy, last⟩ := vodPolicy_reads rest
        exact (yields_expect.mp last).2
      · exact (yields_pure.mp rest).2
    · rintro _ ⟨⟩
      exact ⟨pending, p, found, preparing⟩

variable {viewer : Uuid}

theorem publishControl_steps {current : Uuid} {encodes : Bool}
    (found : s.controls.find viewer = some control)
    (ended : control.pendingOperation = none ∨ ∀ operation p, s.operations.find operation = some p →
      p.reservationId = viewer → p.state.terminal = true)
    (ran : Yields (do
      let _ ← updateControl 1 viewer fun v =>
        { v with
          state := .ready, currentOutput := some current, pendingOperation := none
          claimEncodes := encodes, checkpointOutput := none, checkpointSequence := 0
          checkpointPosition := none }) s u s') : Steps s s' := by
  obtain ⟨_, _, updating, last⟩ := yields_bind.mp ran
  obtain ⟨-, rfl⟩ := yields_pure.mp last
  obtain ⟨-, -, rfl⟩ | ⟨old, new, known, -, write, revised, rfl⟩ := updateControl_yields updating
  · exact .refl
  · cases found.symm.trans known
    refine .single (.updateControl (revised.update known write rfl ?_ (by simp) (by simp) (.inr rfl)))
    exact ended.elim (fun idle => .inr (.inl idle)) fun ended => .inr (.inr ⟨rfl, ended⟩)

theorem publish_commits {instanceId : Uuid} {binding : Option Binding} (settled : Settled s)
    (ran : Yields (publish instanceId request binding authority output evidence) s u s') :
    Commits s s' := by
  obtain ⟨clock, ticks, middle, later, acted, committed, -⟩ := activeSql_yields ran
  refine ⟨middle, .head (.tick ticks later) ?_, committed⟩
  have settled := settled.moved ticks later
  generalize s.moved clock ticks = s at acted settled ⊢
  simp only [yields_get_bind, yields_present_bind, yields_expect_bind] at acted
  obtain ⟨control, viewer, ⟨row, command⟩, -, -, rest⟩ := acted
  obtain ⟨_, _, checked, rest⟩ := yields_bind.mp rest
  obtain ⟨same, operating, first⟩ := publishable_yields checked
  rw [same] at rest
  simp only [yields_present_bind, yields_expect_bind] at rest
  obtain ⟨⟨history, started⟩, -, -, rest⟩ := rest
  obtain ⟨published, _, updating, rest⟩ := yields_bind.mp rest
  refine (updateOutput_steps (by simp) _ _ _ updating).trans ?_
  rw [yields_expect_bind] at rest
  obtain ⟨done, rest⟩ := rest
  obtain ⟨rfl, -⟩ | ⟨_, _, clock, ticks, -, -, -, -, -, rfl, -⟩ := updateOutput_yields updating
  · cases done
  cases which : output.operation with
  | none =>
    have idle : control.pendingOperation = none := by
      by_contra pending
      have changing := settled.pending.changing _ _ viewer (Option.isSome_iff_ne_none.mpr pending)
      cases changing.symm.trans (first which)
    simp only [which] at rest
    split at rest
    · obtain ⟨_, _, commanding, publishing⟩ := yields_bind.mp rest
      obtain ⟨steps, commands, rfl⟩ := updateCommand_yields commanding
      refine steps.trans ?_
      exact publishControl_steps (by exact viewer) (.inl idle) publishing
    · exact publishControl_steps (by exact viewer) (.inl idle) rest
  | some id =>
    obtain ⟨pending, p, known, preparing⟩ := operating id which
    obtain ⟨q, known', owned, open_⟩ := settled.named viewer pending
    cases known.symm.trans known'
    simp only [which] at rest
    obtain ⟨_, _, completing, publishing⟩ := yields_bind.mp rest
    refine (updateOperation_steps (by simp) (by simp) _ _ _ completing).trans ?_
    obtain ⟨-, skipped⟩ | ⟨before, new, clock', ticks', -, -, -, shape, rfl, -⟩ :=
      updateOperation_yields completing
    · simpa [preparing] using skipped p known
    · have terminal : new.state.terminal = true := by
        rw [shape]
        rfl
      exact publishControl_steps (by exact viewer) (.inr (settled.ended known owned open_ terminal)) publishing

theorem failed_commits (ran : Yields (failed viewer) s u s') : Commits s s' :=
  transaction_commits (.bind .get fun _ => .ite (fun _ => updateCommand_steps _ _) fun _ => .pure) ran

/-- An update of a control that leaves its pending operation and its output alone. -/
theorem keepControl_steps (ran : Yields (updateControl 1 viewer assign) s found s')
    (revision : ∀ v, (assign v).revision = v.revision)
    (pending : ∀ v, (assign v).pendingOperation = v.pendingOperation)
    (current : ∀ v, (assign v).currentOutput = v.currentOutput)
    (state : ∀ v, s.controls.find viewer = some v → v.pendingOperation.isSome = true →
      (assign v).state = v.state) : Steps s s' := by
  obtain ⟨-, -, rfl⟩ | ⟨old, new, known, -, write, revised, rfl⟩ := updateControl_yields ran
  · exact .refl
  · refine .single (.updateControl (revised.update known write (revision old) (.inl (pending old)) ?_ ?_
      (.inl (current old))))
    · intro busy
      rw [pending old] at busy
      exact .inr ⟨state old known busy, pending old⟩
    · intro operation pointing
      exact .inl ⟨pending old ▸ pointing, .inl (current old)⟩

theorem unavailable_commits (ran : Yields (unavailable instanceId request binding authority current) s marked s') :
    Commits s s' := by
  obtain ⟨clock, ticks, middle, later, acted, committed, -⟩ := activeSql_yields ran
  refine ⟨middle, .head (.tick ticks later) ?_, committed⟩
  simp only [yields_get_bind, yields_present_bind] at acted
  obtain ⟨control, viewer, rest⟩ := acted
  split at rest
  · rw [(yields_pure.mp rest).2]
  · rename_i idle
    rw [yields_expect_bind] at rest
    obtain ⟨_, _, updating, last⟩ := yields_bind.mp rest.2
    obtain ⟨-, rfl⟩ := yields_pure.mp last
    refine keepControl_steps updating (fun _ => rfl) (fun _ => rfl) (fun _ => rfl) ?_
    intro v found busy
    cases viewer.symm.trans found
    exact absurd busy idle

theorem cleanUncertain_commits (ran : Yields (cleanUncertain viewer output) s u s') : Commits s s' := by
  refine transaction_commits (.bind .get fun _ => .bind .demand fun _ => ?_) ran
  exact .bind (updateOutput_steps (by simp)) fun _ => .pure

theorem clean_commits {output : Uuid} {operation : Option Uuid} {failure : Option String}
    (ran : Yields (clean viewer output operation failure) s u s') :
    Commits s s' := by
  refine transaction_commits (.bind .get fun _ => .bind .demand fun _ => ?_) ran
  refine .bind (updateOutput_steps (by simp)) fun _ => ?_
  cases operation with
  | none => exact .pure
  | some => exact .bind clockTimestamp_steps fun _ => updateOperation_steps (by simp) (by simp)

theorem cleanup_commits (ran : Yields (cleanup viewer) s u s') : Commits s s' := by
  refine transaction_commits (.bind .get fun _ => .bind .demand fun _ => ?_) ran
  exact .bind (playbackVodCompleteOutputs_steps viewer) fun _ => updateCommand_steps _ _

theorem cleanupUncertain_commits (ran : Yields (cleanupUncertain viewer) s u s') : Commits s s' :=
  transaction_commits (.bind .get fun _ => .ite (fun _ => updateCommand_steps _ _) fun _ => .pure) ran

theorem commandActor_steps (id : Uuid) (row : Reservation) (scope : Scope) (revision : Int)
    (cleanup : Bool) : Within Step (commandActor id row scope revision cleanup) :=
  .bind (.reads fun _ _ _ ran => (yields_liftExcept.mp ran).2) fun _ => .bind .ensure fun _ => .pure

theorem stop_commits (ran : Yields (stop scope valid id) s now s') : Commits s s' := by
  have context : Within Step (cleanupContext scope valid) :=
    .bind (.bind .get fun _ => .ensure) fun _ => .ensure
  refine transaction_commits (.bind context fun _ => .bind .get fun _ => .bind .demand fun found => ?_) ran
  refine .bind (commandActor_steps _ _ _ _ _) fun _ => .bind (retireReservation_steps id) fun _ => ?_
  refine .bind .get fun _ => .ite (fun _ => ?_) fun _ => clockTimestamp_steps
  exact .bind (updateCommand_steps _ _) fun _ => clockTimestamp_steps

/-! ## Control operations -/

theorem missingOperation_yields (ran : Yields (missingOperation id) s u s') : Ticked s s' := by
  simp only [missingOperation, yields_clock_bind, yields_get_bind, yields_expect_bind, yields_expect] at ran
  rw [ran.2.2.2]
  exact ticked_tick s

theorem readOutput_yields (ran : Yields (readOutput viewer id) s o s') :
    s' = s ∧ s.outputs.find id = some o ∧ o.reservationId = viewer := by
  simp only [readOutput, yields_get_bind, yields_present, Option.filter_eq_some_iff, decide_eq_true_eq] at ran
  exact ⟨ran.2, ran.1⟩

theorem acceptable_yields {target : Output}
        (ran : Yields (acceptable digest request target input process control) s u s') :
    s' = s ∧ ∃ value, etag digest value = some input.condition ∧ value.requestId = request.id ∧
      value.revision = control.revision := by
  simp only [acceptable, yields_expect_bind, yields_present_bind] at ran
  obtain ⟨-, id, -, rest⟩ := ran
  obtain ⟨current, _, reading, rest⟩ := yields_bind.mp rest
  rw [(readOutput_yields reading).1] at rest
  simp only [yields_present_bind, yields_expect_bind, decide_eq_true_eq] at rest
  obtain ⟨value, configured, tag, tagged, matched, -, -, rest⟩ := rest
  obtain ⟨policy, last⟩ := vodPolicy_reads rest
  simp only [yields_expect_bind, yields_expect] at last
  refine ⟨last.2.2, value, by rw [matched, tagged], ?_⟩
  unfold configuration at configured
  split at configured
  · cases configured
  · cases configured
    exact ⟨rfl, rfl⟩

/-- A new operation: the configuration its condition names was the control's, and
the control has moved past it. -/
structure Accepted (digest : ConfigurationResponse → Option String) (s s' : Store)
    (request : Request) (input : Acceptance) (before after : Control) (value : ConfigurationResponse)
    (row : Operation) : Prop where
  absent : s.operations.find input.operation = none
  viewer : s.controls.find request.id = some before
  tagged : etag digest value = some input.condition
  named : value.requestId = request.id
  revision : value.revision = before.revision
  moved : s'.controls.find request.id = some after
  bumped : before.revision < after.revision
  stored : s'.operations.find input.operation = some row
  owner : row.reservationId = request.id
  hash : row.intentHash = input.hash
  condition : row.condition = input.condition
  expected : row.expectedOutput = input.expected
  fresh : row.state = .accepted

theorem acceptWrites_yields {input : Acceptance} {target : Output}
    {after : Store} {reply : OperationResponse × Bool} (settled : Settled s)
    (viewer : s.controls.find request.id = some control) (committed : Committed s' after)
    (ran : Yields (do
      insertOperation input.operation (input.row request target)
      target.insert request.id
      let _ ← updateControl 1 request.id fun v =>
        { v with
          state := .changing, pendingOperation := some input.operation
          claimEncodes := v.claimEncodes || target.binding.encodes
          recoveryBudget := input.budget.getD v.recoveryBudget }
      let row ← present ((← get).operations.find input.operation) .storage
      return (operationResponse request.id input.operation row false, true)) s reply s') :
    Steps s s' ∧ reply.2 = true ∧ ∃ after row, s'.controls.find request.id = some after ∧
      control.revision < after.revision ∧ s'.operations.find input.operation = some row ∧
      row = { input.row request target with createdAt := row.createdAt } ∧
      reply.1 = operationResponse request.id input.operation row false := by
  obtain ⟨_, operated, operating, rest⟩ := yields_bind.mp ran
  obtain ⟨_, prepared, preparing, rest⟩ := yields_bind.mp rest
  obtain ⟨_, controlled, controlling, rest⟩ := yields_bind.mp rest
  simp only [yields_get_bind, yields_present_bind, yields_pure] at rest
  obtain ⟨row, stored, rfl, rfl⟩ := rest
  obtain ⟨saved, before, clock, ticks, cutoff, later, insertion, raised, shape, rfl⟩ :=
    insertOperation_yields operating
  have owner : saved.reservationId = request.id := by
    rw [shape]
    rfl
  have same : before = control := by
    have found := insertion.viewer
    rw [owner] at found
    exact Option.some.inj (found.symm.trans viewer)
  obtain ⟨absent, clock', ticks', later', rfl, prepared⟩ := insertOutputRow_yields preparing
  have counted : (s.controls.put saved.reservationId
      { before with retainedOperations := before.retainedOperations + 1 }).find request.id =
      some { control with retainedOperations := control.retainedOperations + 1 } := by
    rw [owner, same, Table.find_put_self]
  obtain ⟨missing, -, -⟩ | ⟨old, new, known, -, write, revised, rfl⟩ := updateControl_yields controlling
  · cases missing.symm.trans counted
  -- COMMIT has judged the new output, so it is of the operation inserted beside it.
  have candidate : ∀ operation p, (s.operations.put input.operation saved).find operation = some p →
      p.candidateOutput = target.id → operation = input.operation ∧ saved = p := by
    intro operation p found candidate
    rw [Table.find_put] at found
    split at found
    · rename_i which
      exact ⟨which, Option.some.inj found⟩
    · exact absurd candidate (settled.uncandidate absent found)
  have prepared := prepared (by
    intro operation p found named
    obtain ⟨rfl, rfl⟩ := candidate operation p found named
    simp) (by
    intro operation linked
    obtain ⟨p, found, attributed, named⟩ := committed.linked request.id target.id
      (by simp) (settled.rooted.controls _ _ viewer) (Table.find_put_self ..) rfl linked
    obtain ⟨rfl, rfl⟩ := candidate operation p found named
    exact ⟨saved, found, attributed, named, insertion.uncleaned⟩)
  have steps : Steps s _ := .head (.tick ticks later) (.head (.insertOperation insertion raised)
    (.head (.tick ticks' later') (.single (.insertOutput prepared))))
  have kept : old = { control with retainedOperations := control.retainedOperations + 1 } :=
    Option.some.inj (known.symm.trans counted)
  have idle : old.pendingOperation = none := by
    rw [kept, ← same]
    exact insertion.idle
  have expected : old.currentOutput = some saved.expectedOutput := by
    rw [kept, ← same]
    exact insertion.expected
  have bumped : new.revision = old.revision + 1 :=
    revised.changed (.inr (.inr (.inl (by simp [idle]))))
  refine ⟨steps.tail (.updateControl (revised.update known write rfl (.inr (.inl idle))
    (fun _ => .inl rfl) ?_ (.inl rfl))), rfl, new, saved, Table.find_put_self .., ?_, Table.find_put_self .., shape, ?_⟩
  · rintro operation ⟨⟩
    exact .inr ⟨saved, Table.find_put_self .., expected⟩
  · rw [bumped, kept]
    exact Int.lt_succ _
  · cases (Table.find_put_self ..).symm.trans stored
    rfl

/-- An acceptance: a replay answers the operation that is there, and a new one is
recorded as `Accepted` says. -/
theorem accept_commits (settled : Settled s)
    (ran : Yields (accept digest instanceId request binding authority target input process) s reply s') :
    Commits s s' ∧
      ((reply.2 = false ∧ s'.operations = s.operations ∧ ∃ row,
          s.operations.find input.operation = some row ∧ row.reservationId = request.id ∧
          row.intentHash = input.hash ∧ row.condition = input.condition ∧
          reply.1 = operationResponse request.id input.operation row false) ∨
        (reply.2 = true ∧ ∃ before after value row,
          Accepted digest s s' request input before after value row ∧
          reply.1 = operationResponse request.id input.operation row false)) := by
  obtain ⟨clock, ticks, middle, later, acted, committed, -⟩ := activeSql_yields ran
  have settled' := settled.moved ticks later
  simp only [yields_get_bind, yields_present_bind] at acted
  obtain ⟨control, viewer, rest⟩ := acted
  cases known : (s.moved clock ticks).operations.find input.operation with
  | some row =>
    simp only [known, replayAccepted, yields_expect_bind, yields_pure, Bool.and_eq_true,
      decide_eq_true_eq] at rest
    obtain ⟨⟨⟨owner, hash⟩, condition⟩, rfl, rfl⟩ := rest
    refine ⟨⟨_, .single (.tick ticks later), committed⟩, .inl ⟨rfl, ?_, row, known, owner, hash,
      condition, rfl⟩⟩
    rw [committed.cleared]
    rfl
  | none =>
    simp only [known] at rest
    obtain ⟨_, _, missing, rest⟩ := yields_bind.mp rest
    obtain ⟨clock', ticks', later', rfl⟩ := missingOperation_yields missing
    obtain ⟨_, _, judged, writing⟩ := yields_bind.mp rest
    obtain ⟨same, value, tagged, named, revision⟩ := acceptable_yields judged
    rw [same] at writing
    obtain ⟨steps, fresh, after, row, moved, bumped, stored, shape, answer⟩ :=
      acceptWrites_yields (settled'.moved ticks' later') viewer committed writing
    refine ⟨⟨middle, .head (.tick ticks later) (.head (.tick ticks' later') steps), committed⟩,
      .inr ⟨fresh, control, after, value, row, ?_, answer⟩⟩
    have tables : s'.controls = middle.controls ∧ s'.operations = middle.operations := by
      rw [committed.cleared]
      exact ⟨rfl, rfl⟩
    refine ⟨known, viewer, tagged, named, revision, tables.1 ▸ moved, bumped, tables.2 ▸ stored, ?_, ?_,
      ?_, ?_, ?_⟩ <;>
    · rw [shape]
      rfl

theorem replay_commits {hash : Hash} (ran : Yields (replay scope session viewer id hash condition) s response s') :
    Commits s s' ∧ s'.operations = s.operations ∧ (∀ row, s.operations.find id = some row →
      row.reservationId = viewer ∧ row.intentHash = hash ∧ row.condition = condition ∧
        response = some (operationResponse viewer id row true)) := by
  obtain ⟨middle, acted, committed⟩ := transaction_yields ran
  have kept : s'.operations = middle.operations := by rw [committed.cleared]
  rw [kept]
  simp only [rootContext, requireHousehold, bind_assoc, yields_expect_bind, yields_get_bind,
    yields_liftExcept_bind] at acted
  obtain ⟨-, -, revision, -, rest⟩ := acted
  cases known : s.operations.find id with
  | some =>
    simp only [known, yields_expect_bind, yields_pure, Bool.and_eq_true, decide_eq_true_eq] at rest
    obtain ⟨⟨⟨owner, hash⟩, condition⟩, rfl, rfl⟩ := rest
    refine ⟨⟨_, .refl, committed⟩, rfl, ?_⟩
    rintro _ ⟨⟩
    exact ⟨owner, hash, condition, rfl⟩
  | none =>
    simp only [known] at rest
    obtain ⟨_, _, missing, last⟩ := yields_bind.mp rest
    obtain ⟨-, rfl⟩ := yields_pure.mp last
    obtain ⟨clock, ticks, later, rfl⟩ := missingOperation_yields missing
    exact ⟨⟨_, .single (.tick ticks later), committed⟩, rfl, by simp⟩

/-! ## Executions -/

/-- How far the process of an execution has come. -/
def Phase.rank : Phase → Nat
  | .queued => 0
  | .retired => 1
  | .preparing => 2

/-- An operation identity that can never be inserted again. -/
def OperationSpent (s : Store) (id : Uuid) : Prop :=
  (s.operations.find id).isSome = true ∨ ¬ Timely s.operationRetention.cutoff id

/-- What the process of an execution knows of its operation: the output it
replaces, and that the operation is at least where the process is. -/
structure Work.Tracks (s : Store) (id : Uuid) (work : Work) : Prop where
  spent : OperationSpent s id
  previous : ∀ p, s.operations.find id = some p → work.previous = p.expectedOutput
  viewer : ∀ p, s.operations.find id = some p → work.request.id = p.reservationId
  rank : ∀ p, s.operations.find id = some p → work.phase.rank ≤ p.state.rank

theorem OperationSpent.step (spent : OperationSpent s id) (step : Step s s') : OperationSpent s' id := by
  have raised : ∀ {cutoff}, s.operationRetention.cutoff ≤ cutoff → ¬ Timely s.operationRetention.cutoff id →
      ¬ Timely cutoff id := by
    rintro cutoff later expired ⟨time, stamped, above⟩
    exact expired ⟨time, stamped, later.trans above⟩
  unfold OperationSpent at spent ⊢
  cases step with
  | expire _ _ _ _ _ account => obtain ⟨-, rfl⟩ | ⟨-, -, -, rfl⟩ := account <;> exact spent
  | insertOperation _ later =>
    rcases spent with there | expired
    · exact .inl (by grind)
    · exact .inr (raised later expired)
  | updateOperation => exact spent.imp_left (by grind)
  | deleteOperation deletion =>
    have expired := deletion.expired
    rcases spent with there | expired
    · grind
    · exact .inr expired
  | retain later => exact spent.imp_right (raised later)
  | _ => exact spent

theorem Work.Tracks.step {work : Work} (tracks : work.Tracks s id)
    (checked : Checked s) (step : Step s s') : work.Tracks s' id := by
  have spent := tracks.spent.step step
  obtain ⟨before, previous, viewer, rank⟩ := tracks
  cases step with
  | expire _ _ _ _ _ account =>
    obtain ⟨-, rfl⟩ | ⟨-, -, -, rfl⟩ := account <;> exact ⟨spent, previous, viewer, rank⟩
  | insertOperation insertion =>
    have absent := insertion.absent
    have timely := insertion.timely
    refine ⟨spent, ?_, ?_, ?_⟩ <;> grind [OperationSpent]
  | updateOperation update =>
    have found := update.found
    have same := update.same
    have forward := update.forward (checked.operations _ _ found)
    refine ⟨spent, ?_, ?_, ?_⟩ <;> grind [Operation.SameAttribution]
  | deleteOperation => refine ⟨spent, ?_, ?_, ?_⟩ <;> grind
  | _ => exact ⟨spent, previous, viewer, rank⟩

theorem OperationState.eq_of_rank {a b : OperationState} (same : a.rank = b.rank)
    (certain : a ≠ .uncertain) (open_ : b = .accepted ∨ b = .retiring) : a = b := by
  rcases open_ with rfl | rfl <;> revert same certain <;> cases a <;> simp [OperationState.rank]

/-- An update from one state of an operation to the next leaves it beyond the first. -/
theorem advanceOperation_rank {from_ next : OperationState}
    (ran : Yields (updateOperation id (fun p => p.state = from_) fun p => { p with state := next }) s u s')
    (started : ∀ p, s.operations.find id = some p → from_.rank ≤ p.state.rank)
    (certain : ∀ p, s.operations.find id = some p → p.state ≠ .uncertain)
    (open_ : from_ = .accepted ∨ from_ = .retiring) (bound : from_.rank < next.rank) :
    ∀ p, s'.operations.find id = some p → from_.rank < p.state.rank := by
  intro p found
  obtain ⟨rfl, skipped⟩ | ⟨old, new, _, _, -, -, -, shape, rfl, -⟩ := updateOperation_yields ran
  · have apart : p.state ≠ from_ := by simpa using skipped p found
    refine lt_of_le_of_ne (started p found) fun same => apart ?_
    exact OperationState.eq_of_rank same.symm (certain p found) open_
  · cases (Table.find_put_self ..).symm.trans found
    rw [shape]
    exact bound

/-- The replaced output is the one the viewer's control points at, so retiring it
takes it from no ready control. -/
theorem executeRetiring_commits (settled : Settled s)
    (replaces : ∀ p, s.operations.find id = some p → previous = p.expectedOutput)
    (ran : Yields (executeRetiring instanceId request binding authority id previous) s u s') :
    Commits s s' ∧ ∀ p, s'.operations.find id = some p → 1 ≤ p.state.rank := by
  obtain ⟨clock, ticks, middle, later, acted, committed, row, admitted, held⟩ := activeSql_yields ran
  have kept : s'.operations = middle.operations := by rw [committed.cleared]
  rw [kept]
  have settled := settled.moved ticks later
  simp only [yields_get_bind, yields_present_bind, yields_expect_bind, decide_eq_true_eq] at acted
  obtain ⟨control, viewer, pending, rest⟩ := acted
  obtain ⟨_, retiring, operating, rest⟩ := yields_bind.mp rest
  obtain ⟨_, _, updating, last⟩ := yields_bind.mp rest
  obtain ⟨-, rfl⟩ := yields_pure.mp last
  have steps := updateOperation_steps (by simp) (by simp) _ _ _ operating
  have beyond : ∀ p, retiring.operations.find id = some p → 1 ≤ p.state.rank :=
    advanceOperation_rank operating (fun _ _ => Nat.zero_le _)
      (fun p found => settled.checked.certain id p found) (.inl rfl) (by decide)
  -- Whoever points at the replaced output is the viewer, whose control is changing.
  have unready : ∀ other v, s.controls.find other = some v → v.currentOutput = some previous →
      v.state ≠ .ready := by
    intro other v found pointing ready
    obtain ⟨p, known, current⟩ := settled.pending.replaced request.id control id viewer pending
    have current : control.currentOutput = some previous := by
      rw [replaces p known]
      refine current.resolve_right fun released => ?_
      simp [released row admitted] at held
    obtain ⟨o, output, mine⟩ := settled.served.current request.id control previous viewer current
    obtain ⟨o', output', theirs⟩ := settled.served.current other v previous found pointing
    cases output.symm.trans output'
    obtain rfl : request.id = other := mine.symm.trans theirs
    cases viewer.symm.trans found
    have changing := settled.pending.changing _ _ viewer (by simp [pending])
    cases changing.symm.trans ready
  have controls : retiring.controls = s.controls := by
    obtain ⟨rfl, -⟩ | ⟨_, _, _, _, -, -, -, -, rfl, -⟩ := updateOperation_yields operating <;> rfl
  obtain ⟨-, rfl, -⟩ | ⟨old, new, clock', ticks', later', -, -, -, -, rfl, update⟩ :=
    updateOutput_yields updating
  · exact ⟨⟨_, .head (.tick ticks later) steps, committed⟩, beyond⟩
  · have update := update fun _ => .inr (controls ▸ unready)
    exact ⟨⟨_, .head (.tick ticks later) (steps.trans (.head (.tick ticks' later')
      (.single (.updateOutput update)))), committed⟩, beyond⟩

theorem executePreparing_commits (settled : Settled s)
    (started : ∀ p, s.operations.find id = some p → 1 ≤ p.state.rank)
    (ran : Yields (executePreparing instanceId request binding authority id) s u s') :
    Commits s s' ∧ ∀ p, s'.operations.find id = some p → 2 ≤ p.state.rank := by
  obtain ⟨clock, ticks, middle, later, acted, committed, -⟩ := activeSql_yields ran
  have kept : s'.operations = middle.operations := by rw [committed.cleared]
  rw [kept]
  refine ⟨⟨middle, .head (.tick ticks later) (updateOperation_steps (by simp) (by simp) _ _ _ acted), committed⟩, ?_⟩
  exact advanceOperation_rank acted started (fun p found => settled.checked.certain id p found)
    (.inr rfl) (by decide)

theorem executeFailed_commits (settled : Settled s) (started : ∀ p, s.operations.find id = some p → 2 ≤ p.state.rank)
    (ran : Yields (executeFailed instanceId request binding authority id previous recovery) s u s') :
    Commits s s' := by
  obtain ⟨clock, ticks, middle, later, acted, committed, -⟩ := activeSql_yields ran
  refine ⟨middle, .head (.tick ticks later) ?_, committed⟩
  have settled := settled.moved ticks later
  simp only [yields_get_bind, yields_present_bind, yields_expect_bind, decide_eq_true_eq] at acted
  obtain ⟨control, viewer, pending, rest⟩ := acted
  obtain ⟨p, known, owned, open_⟩ := settled.named viewer pending
  have preparing : p.state = .preparing := by
    have bound := started p known
    revert bound open_
    cases p.state <;> simp [OperationState.rank, OperationState.terminal]
  obtain ⟨_, _, failing, rest⟩ := yields_bind.mp rest
  refine (updateOperation_steps (by simp) (by simp) _ _ _ failing).trans ?_
  obtain ⟨-, skipped⟩ | ⟨before, new, clock', ticks', -, -, -, shape, rfl, -⟩ := updateOperation_yields failing
  · simpa [preparing] using skipped p known
  have terminal : new.state.terminal = true := by
    rw [shape]
    rfl
  have ended := settled.ended known owned open_ terminal
  obtain ⟨prior, _, reading, rest⟩ := yields_bind.mp rest
  rw [(readOutput_yields reading).1] at rest
  obtain ⟨_, _, updating, last⟩ := yields_bind.mp rest
  obtain ⟨-, rfl⟩ := yields_pure.mp last
  obtain ⟨-, -, rfl⟩ | ⟨old, row, found, -, write, revised, rfl⟩ := updateControl_yields updating
  · exact .refl
  · exact .single (.updateControl (revised.update found write rfl (.inr (.inr ⟨rfl, ended⟩)) (by simp)
      (by simp) (.inl rfl)))

/-! ## Checkpoints -/

theorem checkpoint_commits (ran : Yields (checkpoint instanceId request binding authority body process) s answer s') :
    Commits s s' := by
  obtain ⟨clock, ticks, middle, later, acted, committed, -⟩ := activeSql_yields ran
  refine ⟨middle, .head (.tick ticks later) ?_, committed⟩
  simp only [yields_get_bind, yields_present_bind, yields_expect_bind] at acted
  obtain ⟨row, -, -, rest⟩ := acted
  split at rest
  · rw [(yields_pure.mp rest).2]
  · simp only [yields_get_bind, yields_present_bind, yields_expect_bind] at rest
    obtain ⟨-, ⟨r, command⟩, -, -, output, -, -, -, rest⟩ := rest
    obtain ⟨_, _, updating, last⟩ := yields_bind.mp rest
    simp only [yields_get_bind, yields_present] at last
    obtain ⟨-, rfl⟩ := last
    exact keepControl_steps updating (fun _ => rfl) (fun _ => rfl) (fun _ => rfl) fun _ _ _ => rfl

end Duskcue.Playback
