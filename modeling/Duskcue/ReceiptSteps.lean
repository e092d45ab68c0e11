import Duskcue.StoreSteps

/-! What the statements on the receipt tables do, as steps. Each statement has one
lemma; the transactions above cite these and unfold no trigger. -/
namespace Duskcue.Playback
open Transaction Relation

/-! ## Reading -/

section
variable {α β : Type} {s s' : Store} {a : α} {b : β} {u : Unit} {condition : Bool}

@[simp] theorem yields_require : Yields (require condition code message) s u s' ↔ condition = true ∧ s' = s :=
  yields_ensure

@[simp] theorem yields_require_bind {next : Unit → Tx α} :
    Yields (require condition code message >>= next) s a s' ↔
      condition = true ∧ Yields (next ()) s a s' :=
  yields_ensure_bind

@[simp] theorem yields_expect : Yields (expect condition error) s u s' ↔ condition = true ∧ s' = s :=
  yields_ensure

@[simp] theorem yields_expect_bind {next : Unit → Tx α} :
    Yields (expect condition error >>= next) s a s' ↔ condition = true ∧ Yields (next ()) s a s' :=
  yields_ensure_bind

@[simp] theorem yields_present : Yields (present value error) s a s' ↔ value = some a ∧ s' = s :=
  yields_demand

@[simp] theorem yields_present_bind {next : β → Tx α} :
    Yields (present value error >>= next) s a s' ↔ ∃ b, value = some b ∧ Yields (next b) s a s' :=
  yields_demand_bind

@[simp] theorem yields_liftExcept : Yields (liftExcept value) s a s' ↔ value = .ok a ∧ s' = s := by
  cases value <;> simp [liftExcept, eq_comm]

@[simp] theorem yields_liftExcept_bind {next : β → Tx α} :
    Yields (liftExcept value >>= next) s a s' ↔ ∃ b, value = .ok b ∧ Yields (next b) s a s' := by
  simp [and_assoc]

@[simp] theorem yields_clock : Yields clockTimestamp s now s' ↔ now = s.tick.clock ∧ s' = s.tick := by
  simp only [clockTimestamp, yields_modify_bind, yields_get_bind, yields_pure]

@[simp] theorem yields_clock_bind {next : Time → Tx α} :
    Yields (clockTimestamp >>= next) s a s' ↔ Yields (next s.tick.clock) s.tick a s' := by
  simp [and_assoc]

end

/-- Nothing but the clock has moved. -/
def Ticked (s s' : Store) : Prop := ∃ clock ticks, s.clock ≤ clock ∧ s' = s.moved clock ticks

theorem Ticked.refl (s : Store) : Ticked s s := ⟨s.clock, s.ticks, le_rfl, rfl⟩

theorem Ticked.trans (first : Ticked s s') (rest : Ticked s' s'') : Ticked s s'' := by
  obtain ⟨clock, ticks, later, rfl⟩ := first
  obtain ⟨clock', ticks', later', rfl⟩ := rest
  exact ⟨clock', ticks', le_trans later later', rfl⟩

theorem clock_le_tick (s : Store) : s.clock ≤ s.tick.clock := by
  have elapsed : (0 : Int) ≤ s.ticks.headD 0 := Int.natCast_nonneg _
  exact Int.le_add_of_nonneg_right elapsed

theorem ticked_tick (s : Store) : Ticked s s.tick :=
  ⟨s.tick.clock, s.tick.ticks, clock_le_tick s, rfl⟩

theorem Ticked.steps (ticked : Ticked s s') : Steps s s' := by
  obtain ⟨clock, ticks, later, rfl⟩ := ticked
  exact .single (.tick ticks later)

theorem stamp_yields (ran : Yields (stamp fresh value) s result s') :
    Ticked s s' ∧ (fresh = false → result = value) ∧
      (fresh = true → ∃ time, result = some time ∧ s.clock ≤ time) := by
  cases fresh with
  | true =>
    simp only [stamp, if_true] at ran
    obtain ⟨now, read, rfl⟩ := yields_map.mp ran
    obtain ⟨rfl, rfl⟩ := yields_clock.mp read
    exact ⟨ticked_tick s, by simp, fun _ => ⟨_, rfl, clock_le_tick s⟩⟩
  | false =>
    simp only [stamp, Bool.false_eq_true, if_false, yields_pure] at ran
    obtain ⟨rfl, rfl⟩ := ran
    exact ⟨.refl _, fun _ => rfl, by simp⟩

/-! ## Time and accounting -/

variable {id : Uuid}

theorem timely_of_timing (timing : playbackReceiptTimeError id observed floor = 0) : Timely floor id := by
  unfold playbackReceiptTimeError at timing
  split at timing
  · cases timing
  · rename_i requested stamped
    refine ⟨requested, stamped, ?_⟩
    split at timing
    · cases timing
    · rename_i late
      exact le_trans (le_max_left _ _) (not_lt.mp late)

theorem Recent.mono (recent : Recent clock id) (le : clock ≤ later) : Recent later id :=
  fun requested stamped => (recent requested stamped).trans (Int.add_le_add_right le _)

theorem truncate_le (time : Time) : time.truncate ≤ time := by
  have remains : 0 ≤ time % millisecond := Int.emod_nonneg time (by decide)
  exact Int.sub_le_self time remains

theorem recent_of_timing (timing : playbackReceiptTimeError id observed floor = 0) : Recent observed id := by
  intro requested stamped
  simp only [playbackReceiptTimeError, stamped] at timing
  split at timing
  · cases timing
  · split at timing
    · cases timing
    · rename_i ahead
      exact (not_lt.mp ahead).trans (Int.add_le_add_right (truncate_le observed) _)

theorem not_timely (expired : ¬ id.extractTimestamp.any (· ≥ floor) = true) : ¬ Timely floor id := by
  rintro ⟨requested, stamped, later⟩
  exact expired (by simpa [stamped] using later)

theorem updateRetention_yields (ran : Yields (updateRetention depth assign) s u s') :
    s.retention.cutoff ≤ (assign s.retention).cutoff ∧
      s' = { s with retention := assign s.retention } := by
  simp only [updateRetention, playbackRetentionProtect, bind_assoc, yields_get_bind,
    yields_require_bind, yields_modify, decide_eq_true_eq] at ran
  exact ⟨ran.1, ran.2.2.2⟩

theorem raiseCutoff_step (ran : Yields (updateRetention depth (raiseCutoff floor)) s u s') : Step s s' := by
  obtain ⟨later, rfl⟩ := updateRetention_yields ran
  exact .raise later

variable {household : Uuid}

/-- The shared part of the insert triggers leaves the household a row to count in. -/
theorem receiveIdentity_yields (ran : Yields (receiveIdentity id household retention observed) s u s') :
    Timely retention.cutoff id ∧ Recent observed id ∧ retention.retainedCount < 65536 ∧
      s.counted household < 4096 ∧ ∃ cutoff, s.retention.cutoff ≤ cutoff ∧
        s' = { s.withCutoff cutoff with
          households := (s.households.find household).elim (s.households.put household 0)
            fun _ => s.households } := by
  simp only [receiveIdentity, refuseTiming, bind_assoc, yields_require_bind, yields_get_bind,
    decide_eq_true_eq] at ran
  obtain ⟨-, -, timing, room, ran⟩ := ran
  refine ⟨timely_of_timing timing, recent_of_timing timing, room, ?_⟩
  cases found : s.households.find household with
  | some =>
    simp only [found, yields_pure_bind, yields_require_bind, decide_eq_true_eq] at ran
    obtain ⟨later, rfl⟩ := updateRetention_yields ran.2
    exact ⟨by simpa [Store.counted, found] using ran.1, _, later, rfl⟩
  | none =>
    simp only [found, insertHousehold, playbackHouseholdAccountingProtect, bind_assoc,
      yields_pure_bind, yields_require_bind, yields_modify_bind] at ran
    obtain ⟨later, rfl⟩ := updateRetention_yields ran.2.2
    exact ⟨by simp [Store.counted, found], _, later, rfl⟩

theorem playbackReceiptAccountInsert_yields (ran : Yields (playbackReceiptAccountInsert table id household) s u s')
    (counted : ¬(table = .reservations ∧ (s.intents.find id).isSome = true)) :
    s' = s.countIn household := by
  simp only [playbackReceiptAccountInsert, yields_get_bind, counted, if_false, yields_require_bind] at ran
  obtain ⟨_, middle, retained, ran⟩ := yields_bind.mp ran.2
  obtain ⟨-, rfl⟩ := updateRetention_yields retained
  cases found : s.households.find household with
  | none => simp [found] at ran
  | some =>
    simp only [found, updateHousehold, playbackHouseholdAccountingProtect, yields_require_bind,
      yields_modify] at ran
    simp [ran.2.2.2, Store.countIn, Store.counted, found]

/-- Counting in does not depend on the empty row the insert trigger left. -/
theorem countIn_received (s : Store) (household : Uuid) :
    Store.countIn { s with
      households := (s.households.find household).elim (s.households.put household 0)
        fun _ => s.households } household = s.countIn household := by
  cases found : s.households.find household with
  | none => simp [Store.countIn, Store.counted, found, Table.put_put]
  | some => simp [Store.countIn, Store.counted, found]

theorem playbackReceiptAccountInsert_skips
    (ran : Yields (playbackReceiptAccountInsert .reservations id household) s u s')
    (known : (s.intents.find id).isSome = true) : s' = s := by
  simp only [playbackReceiptAccountInsert, yields_get_bind, known, and_self, if_true, yields_pure] at ran
  exact ran.2

theorem playbackReceiptAccountDelete_yields (ran : Yields (playbackReceiptAccountDelete table id household) s u s')
    (counted : ¬(table = .reservations ∧ (s.intents.find id).isSome = true)) :
    0 < s.retention.retainedCount ∧ 0 < s.counted household ∧ s' = s.countOut household := by
  simp only [playbackReceiptAccountDelete, yields_get_bind, counted, if_false, yields_require_bind,
    decide_eq_true_eq] at ran
  obtain ⟨_, middle, retained, remaining⟩ := yields_bind.mp ran.2
  obtain ⟨-, rfl⟩ := updateRetention_yields retained
  cases found : s.households.find household with
  | none => simp [found] at remaining
  | some count =>
    simp only [found, updateHousehold, playbackHouseholdAccountingProtect, bind_assoc,
      yields_require_bind, yields_modify_bind, decide_eq_true_eq] at remaining
    obtain ⟨positive, -, -, remaining⟩ := remaining
    refine ⟨ran.1, by simpa [Store.counted, found] using positive, ?_⟩
    by_cases last : count - 1 = 0
    · simp only [last, if_true, deleteHousehold, playbackHouseholdAccountingProtect,
        yields_require_bind, yields_modify_bind, yields_get_bind, yields_require] at remaining
      simp [remaining.2.2, Store.countOut, Store.counted, found, last, Table.remove_put]
    · simp only [last, if_false, yields_pure] at remaining
      simp [remaining.2, Store.countOut, Store.counted, found, last]

theorem playbackReceiptAccountDelete_skips
    (ran : Yields (playbackReceiptAccountDelete .reservations id household) s u s')
    (known : (s.intents.find id).isSome = true) : s' = s := by
  simp only [playbackReceiptAccountDelete, yields_get_bind, known, and_self, if_true, yields_pure] at ran
  exact ran.2

/-! ## Start intents -/

/-- An intent row as its update trigger returns it: the assigned columns, with the
settlement the trigger works out. -/
theorem playbackStartIntentUpdate_yields
    (ran : Yields (playbackStartIntentUpdate id old new) s row s') (checks : row.checks id = true) :
    Ticked s s' ∧ Amendment (s.unreleased id) id old row ∧
      StartIntent.Stamped s.clock id old row ∧
      row = { new with settledAt := row.settledAt, pruneAfter := row.pruneAfter } := by
  simp only [playbackStartIntentUpdate, yields_require_bind, yields_get_bind, decide_eq_true_eq] at ran
  obtain ⟨⟨same, fenced, complete, promoted, -⟩, ran⟩ := ran
  unfold StartIntent.SameAttribution at same
  split at ran
  · rename_i settles
    simp only [yields_clock_bind, yields_pure] at ran
    obtain ⟨rfl, rfl⟩ := ran
    refine ⟨ticked_tick s, ⟨?_, by grind, by grind, by grind, ?_, ?_, checks⟩, ?_, rfl⟩
    · rw [StartIntent.SameAttribution, same]
    · simpa using settles
    · intro time known _
      simp [known]
    · rintro time ⟨⟩
      refine ⟨rfl, ?_⟩
      cases old.settledAt with
      | none => exact .inr (clock_le_tick s)
      | some => exact .inl rfl
  · rename_i unsettled
    simp only [yields_pure] at ran
    obtain ⟨rfl, rfl⟩ := ran
    refine ⟨.refl _, ⟨?_, by grind, by grind, by grind, ?_, ?_, checks⟩, ?_, rfl⟩
    · rw [StartIntent.SameAttribution, same]
    · simpa using unsettled
    · intro time _ settled
      cases settled
    · rintro time ⟨⟩

theorem updateIntent_yields (ran : Yields (updateIntent id assign) s u s') :
    s.intents.find id = none ∧ s' = s ∨
      ∃ old new clock ticks, s.clock ≤ clock ∧ s.intents.find id = some old ∧
        Amendment (s.unreleased id) id old new ∧ StartIntent.Stamped s.clock id old new ∧
        new = { assign old with settledAt := new.settledAt, pruneAfter := new.pruneAfter } ∧
        s' = { s.moved clock ticks with intents := s.intents.put id new } := by
  simp only [updateIntent, yields_get_bind] at ran
  cases found : s.intents.find id with
  | none =>
    simp only [found, yields_pure] at ran
    exact .inl ⟨rfl, ran.2⟩
  | some old =>
    simp only [found] at ran
    obtain ⟨row, middle, triggered, ran⟩ := yields_bind.mp ran
    simp only [yields_require_bind, yields_modify] at ran
    obtain ⟨⟨clock, ticks, later, rfl⟩, amendment, stamped, shape⟩ :=
      playbackStartIntentUpdate_yields triggered ran.1
    exact .inr ⟨old, row, clock, ticks, later, rfl, amendment, stamped, shape, ran.2⟩

/-- An update that leaves `promoted` alone is one amendment. -/
theorem updateIntent_steps (kept : ∀ i, (assign i).promoted = i.promoted) : Within Step (updateIntent id assign) := by
  intro s u s' ran
  obtain ⟨-, rfl⟩ | ⟨old, new, clock, ticks, later, found, amendment, stamped, shape, rfl⟩ :=
    updateIntent_yields ran
  · exact .refl
  · have promoted : new.promoted = old.promoted := by
      rw [shape]
      exact kept old
    exact .head (.amend found amendment promoted stamped) (.single (.tick ticks later))

theorem playbackStartIntentInsert_yields (ran : Yields (playbackStartIntentInsert id new) s row s') :
    s.reservations.find id = none ∧ Timely s.retention.cutoff id ∧ Recent s'.clock id ∧
      (∀ time, row.settledAt = some time →
        row.pruneAfter = some (pruneTime id time) ∧ s'.clock ≤ time) ∧
      (s.retention.retainedCount < 65536 ∧ s.counted row.householdId < 4096) ∧
      (row.settledAt.isSome = true ↔ row.admissionFenced = true ∧ row.preparationComplete = true) ∧
      row = { new with
        createdAt := row.createdAt, admissionDeadline := row.admissionDeadline
        settledAt := row.settledAt, pruneAfter := row.pruneAfter } ∧
      ∃ clock ticks cutoff, s.clock ≤ clock ∧ s.retention.cutoff ≤ cutoff ∧
        s' = { (s.moved clock ticks).withCutoff cutoff with
          households := (s.households.find row.householdId).elim (s.households.put row.householdId 0)
            fun _ => s.households } := by
  simp only [playbackStartIntentInsert, yields_get_bind, yields_require_bind, yields_clock_bind] at ran
  obtain ⟨unadmitted, ran⟩ := ran
  obtain ⟨_, middle, received, ran⟩ := yields_bind.mp ran
  simp only [yields_clock_bind, yields_pure] at ran
  obtain ⟨timely, recent, total, share, cutoff, later, rfl⟩ := receiveIdentity_yields received
  obtain ⟨rfl, rfl⟩ := ran
  refine ⟨Option.isNone_iff_eq_none.mp unadmitted, timely, ?_, ?_, ⟨total, share⟩, by simp, rfl, _, _,
    cutoff, le_trans (clock_le_tick s) (clock_le_tick _), later, rfl⟩
  · exact (recent.mono (truncate_le _)).mono (clock_le_tick _)
  · intro time settled
    grind

theorem insertIntent_yields (ran : Yields (insertIntent id row) s u s')
    (open_ : Unfenced s row.instanceId ∨ row.admissionFenced = true ∧ row.preparationComplete = true) :
    Steps s s' ∧ s'.reservations = s.reservations ∧ (s'.intents.find id).isSome = true := by
  obtain ⟨saved, middle, triggered, ran⟩ := yields_bind.mp ran
  simp only [yields_require_bind, yields_get_bind, yields_modify_bind] at ran
  obtain ⟨checks, absent, -, accounted⟩ := ran
  obtain ⟨unadmitted, timely, recent, stamped, room, settled, shape, clock, ticks, cutoff, later, raised, rfl⟩ :=
    playbackStartIntentInsert_yields triggered
  have counted := playbackReceiptAccountInsert_yields accounted (by simp)
  have open_ : Unfenced s saved.instanceId ∨ saved.settledAt.isSome = true := by
    rw [settled, shape]
    exact open_
  have written : s'.reservations = s.reservations ∧ s'.intents = s.intents.put id saved := by
    rw [counted]
    exact ⟨rfl, rfl⟩
  refine ⟨.head (.tick ticks later) (.single ?_), written.1, by simp [written.2]⟩
  rw [counted]
  exact (countIn_received { (s.moved clock ticks).withCutoff cutoff with
    intents := s.intents.put id saved } saved.householdId) ▸
    .intend (Option.isNone_iff_eq_none.mp absent) unadmitted timely raised room settled open_ checks
      recent stamped

theorem deleteIntent_steps (id : Uuid) : Within Step (deleteIntent id) := by
  intro s u s' ran
  simp only [deleteIntent, yields_get_bind] at ran
  cases found : s.intents.find id with
  | none =>
    simp only [found, yields_pure] at ran
    rw [ran.2]
  | some =>
    simp only [found, playbackStartIntentDelete, bind_assoc, yields_get_bind, yields_clock_bind,
      yields_require_bind, yields_modify_bind, decide_eq_true_eq] at ran
    obtain ⟨⟨settled, -, expired, unadmitted⟩, accounted⟩ := ran
    obtain ⟨total, share, rfl⟩ := playbackReceiptAccountDelete_yields accounted (by simp)
    exact (ticked_tick s).steps.tail (.forget found settled (not_timely expired)
      (Option.isNone_iff_eq_none.mp unadmitted) ⟨total, share⟩)

/-! ## Reservations -/

theorem stampRelease_yields (ran : Yields (stampRelease id new fresh) s row s') :
    Ticked s s' ∧ row = { new with releasedAt := row.releasedAt, pruneAfter := row.pruneAfter } ∧
      (new.state = .released → row.pruneAfter = row.releasedAt.map (pruneTime id) ∧
        (fresh = false → row.releasedAt = new.releasedAt) ∧
        (fresh = true → ∃ time, row.releasedAt = some time ∧ s.clock ≤ time)) := by
  unfold stampRelease at ran
  split at ran
  · obtain ⟨releasedAt, middle, read, last⟩ := yields_bind.mp ran
    obtain ⟨rfl, rfl⟩ := yields_pure.mp last
    obtain ⟨ticked, kept, set⟩ := stamp_yields read
    exact ⟨ticked, rfl, fun _ => ⟨rfl, kept, set⟩⟩
  · rename_i unreleased
    obtain ⟨rfl, rfl⟩ := yields_pure.mp ran
    exact ⟨.refl _, rfl, fun released => absurd released unreleased⟩

theorem stampRelease_held (ran : Yields (stampRelease id new fresh) s row s') (held : new.state = .held)
    (unpruned : new.pruneAfter = none) : row = new ∧ s' = s := by
  have unreleased : new.state ≠ .released := by simp [held]
  simp only [stampRelease, unreleased, if_false, yields_pure, ← unpruned] at ran
  exact ran

/-- A reservation row as its update trigger returns it. -/
theorem playbackReceiptUpdate_yields (ran : Yields (playbackReceiptUpdate id old new) s row s') :
    Ticked s s' ∧ old.SameAttribution row ∧ old.state.rank ≤ row.state.rank ∧
      row = { new with releasedAt := row.releasedAt, pruneAfter := row.pruneAfter } ∧
      (row.state = .released → (old.state = .released → old.releasedAt.isSome = true) →
        ∃ time, row.releasedAt = some time ∧ row.pruneAfter = some (pruneTime id time) ∧
          (old.state = .released ∧ old.releasedAt = some time ∨ s.clock ≤ time)) := by
  simp only [playbackReceiptUpdate, yields_require_bind, decide_eq_true_eq] at ran
  obtain ⟨⟨same, released, retiring, kept⟩, ran⟩ := ran
  obtain ⟨ticked, shape, stamped⟩ := stampRelease_yields ran
  refine ⟨ticked, ?_, ?_, shape, ?_⟩
  · unfold Reservation.SameAttribution at same ⊢
    rw [shape, same]
  · have state : row.state = new.state := by rw [shape]
    rw [state]
    revert released retiring
    cases old.state <;> cases new.state <;> simp [ReservationState.rank]
  · intro gone known
    obtain ⟨prunes, before, fresh⟩ := stamped (by rw [shape] at gone; exact gone)
    by_cases already : old.state = .released
    · have there := known already
      obtain ⟨time, stood⟩ := Option.isSome_iff_exists.mp there
      have still : new.releasedAt = old.releasedAt := not_not.mp fun moved => kept ⟨there, moved⟩
      have now : row.releasedAt = some time := by rw [before (by simp [already]), still, stood]
      exact ⟨time, now, by rw [prunes, now, Option.map_some], .inl ⟨already, stood⟩⟩
    · obtain ⟨time, now, later⟩ := fresh (by simp [already])
      exact ⟨time, now, by rw [prunes, now, Option.map_some], .inr later⟩

theorem playbackVodReleaseGuard_yields (ran : Yields (playbackVodReleaseGuard id new) s u s') :
    s' = s ∧ (new.state = .released →
      (∀ output o, s.outputs.find output = some o → o.reservationId = id →
        o.resourcesCompleted = true) ∧
      ∀ operation p, s.operations.find operation = some p → p.reservationId = id →
        p.state.terminal = true) := by
  simp only [playbackVodReleaseGuard, yields_get_bind, yields_require, decide_eq_true_eq, not_and,
    not_or, Bool.not_eq_true, Table.holds_eq_false] at ran
  refine ⟨ran.2, fun released => ⟨?_, ?_⟩⟩
  · intro output o found owned
    simpa [owned] using (ran.1 released).1 output o found
  · intro operation p found owned
    simpa [owned] using (ran.1 released).2 operation p found

/-- The row an update of a reservation leaves; only a release reaches its intent. -/
structure Updated (s s' : Store) (id : Uuid) (assign : Reservation → Reservation)
    (old new : Reservation) : Prop where
  found : s.reservations.find id = some old
  written : s'.reservations = s.reservations.put id new
  same : old.SameAttribution new
  state : new.state = (assign old).state
  deadline : new.deadline = (assign old).deadline
  intents : new.state ≠ .released → s'.intents = s.intents
  controls : s'.controls = s.controls

/-- An update of a reservation. Only an unfenced instance may move the deadline, and
only a viewer whose control retires may be released. -/
theorem updateReservation_yields (ran : Yields (updateReservation id assign) s u s')
    (renewal : ∀ old, s.reservations.find id = some old → (assign old).deadline = old.deadline ∨
      Unfenced s old.instanceId ∧ (assign old).deadline = s.clock + 60 * second)
    (retired : ∀ old, s.reservations.find id = some old → (assign old).state = .released →
      ∀ v, s.controls.find id = some v → v.state = .retiring) :
    Steps s s' ∧ (s.reservations.find id = none ∧ s' = s ∨
      ∃ old new, Updated s s' id assign old new) := by
  simp only [updateReservation, yields_get_bind] at ran
  cases found : s.reservations.find id with
  | none =>
    simp only [found, yields_pure] at ran
    rw [ran.2]
    exact ⟨.refl, .inl ⟨rfl, rfl⟩⟩
  | some old =>
    simp only [found] at ran
    obtain ⟨row, middle, triggered, rest⟩ := yields_bind.mp ran
    obtain ⟨_, guarded, judged, last⟩ := yields_bind.mp rest
    simp only [yields_require_bind, yields_modify_bind] at last
    obtain ⟨⟨clock, ticks, later, rfl⟩, same, forward, shape, stamped⟩ := playbackReceiptUpdate_yields triggered
    obtain ⟨rfl, obligations⟩ := playbackVodReleaseGuard_yields judged
    obtain ⟨checks, completed⟩ := last
    have state : row.state = (assign old).state := by rw [shape]
    have deadline : row.deadline = (assign old).deadline := by rw [shape]
    -- The stamps are compared with the clock before the statement, so the clock moves last.
    have revision : Revision s id old row := {
      found, same, forward, checks, stamped
      deadline := deadline ▸ renewal old found
      outputs := fun released => (obligations released).1
      operations := fun released => (obligations released).2 }
    unfold playbackStartParentCompletion at completed
    split at completed
    · rename_i released
      have retired := retired old found (state ▸ released)
      obtain ⟨absent, rfl⟩ | ⟨before, after, clock', ticks', later', known, amendment, settles, fenced, rfl⟩ :=
        updateIntent_yields completed
      · have absent : s.intents.find id = none := absent
        have unstamped : ∀ before after, s.intents.find id = some before →
            s.intents.find id = some after → StartIntent.Stamped s.clock id before after := by
          intro before after known
          cases absent.symm.trans known
        refine ⟨.head (.release revision released (.inl ⟨absent, rfl⟩) unstamped retired)
          (.single (.tick ticks later)), ?_⟩
        exact .inr ⟨old, row, found, rfl, same, state, deadline, fun unreleased => absurd released unreleased, rfl⟩
      · have amendment : Amendment false id before after := by
          simpa [Store.unreleased, released] using amendment
        have settles : ∀ intent revised, s.intents.find id = some intent →
            (s.intents.put id after).find id = some revised →
            StartIntent.Stamped s.clock id intent revised := by
          intro intent revised found written
          cases known.symm.trans found
          cases (Table.find_put_self ..).symm.trans written
          intro time settled
          obtain ⟨prunes, since⟩ := settles time settled
          exact ⟨prunes, since.imp_right later.trans⟩
        refine ⟨.head (.release revision released
            (.inr ⟨before, after, known, amendment, by rw [fenced], rfl⟩) settles retired)
          (.single (.tick ticks' (le_trans later later'))), ?_⟩
        exact .inr ⟨old, row, found, rfl, same, state, deadline, fun unreleased => absurd released unreleased, rfl⟩
    · rename_i unreleased
      obtain ⟨-, rfl⟩ := yields_pure.mp completed
      refine ⟨.head (.revise revision unreleased) (.single (.tick ticks later)), ?_⟩
      exact .inr ⟨old, row, found, rfl, same, state, deadline, fun _ => rfl, rfl⟩

/-- Retiring a viewer: what it leaves under the identity, and what it does not touch. -/
theorem retireReservation_yields (ran : Yields (retireReservation id) s u s') :
    Steps s s' ∧ s'.intents = s.intents ∧
      (∀ row, s'.reservations.find id = some row → row.state ≠ .held) ∧
      ∀ other row, s'.reservations.find other = some row → s.reservations.find other = some row ∨
        row.state ≠ .held := by
  simp only [retireReservation, yields_get_bind] at ran
  split at ran
  · rename_i held
    obtain ⟨steps, ⟨absent, -⟩ | ⟨old, new, updated⟩⟩ := updateReservation_yields ran (fun _ _ => .inl rfl) fun _ _ state => by cases state
    · simp [absent] at held
    · have retired : new.state = .retiring := updated.state
      refine ⟨steps, updated.intents (by simp [retired]), ?_, ?_⟩
      · intro row found
        rw [updated.written, Table.find_put_self] at found
        cases found
        simp [retired]
      · intro other row found
        rw [updated.written, Table.find_put] at found
        split at found
        · cases found
          simp [retired]
        · exact .inl found
  · rename_i unheld
    obtain ⟨-, rfl⟩ := yields_pure.mp ran
    refine ⟨.refl, rfl, fun row found => ?_, fun other row found => .inl found⟩
    simpa [found] using unheld

theorem retireReservation_steps (id : Uuid) : Within Step (retireReservation id) :=
  fun _ _ _ ran => (retireReservation_yields ran).1

theorem retireWhere_steps (chosen : Store → Uuid → Reservation → Bool) : Within Step (retireWhere chosen) :=
  .bind .get fun _ => .forEach _ fun id _ => retireReservation_steps id

theorem deleteReservation_steps (id : Uuid) : Within Step (deleteReservation id) := by
  intro s u s' ran
  simp only [deleteReservation, yields_get_bind] at ran
  cases found : s.reservations.find id with
  | none =>
    simp only [found, yields_pure] at ran
    rw [ran.2]
  | some old =>
    simp only [found, playbackReceiptDelete, playbackVodParentRetentionGuard, bind_assoc,
      yields_clock_bind, yields_get_bind, yields_require_bind, yields_modify_bind, decide_eq_true_eq,
      Bool.not_eq_true', Table.holds_eq_false, decide_eq_false_iff_not] at ran
    obtain ⟨⟨released, -, -, expired⟩, free, accounted⟩ := ran
    refine (ticked_tick s).steps.tail ?_
    by_cases known : (s.tick.intents.find id).isSome = true
    · rw [playbackReceiptAccountDelete_skips accounted known]
      exact .expire s.tick found released (not_timely expired) free (.inl ⟨known, rfl⟩)
    · obtain ⟨total, share, rfl⟩ := playbackReceiptAccountDelete_yields accounted (by simp [known])
      exact .expire (s.tick.countOut old.householdId) found released (not_timely expired) free
        (.inr ⟨by simpa using known, total, share, rfl⟩)

/-- The insert of a held reservation, on an identity without an intent. -/
structure Received (s s' : Store) (id : Uuid) (row : Reservation) (clock : Time) (ticks : List Nat) :
    Prop where
  unknown : s.intents.find id = none
  timely : Timely s.retention.cutoff id
  recent : Recent clock id
  room : s.retention.retainedCount < 65536 ∧ s.counted row.householdId < 4096
  result : ∃ cutoff, s.retention.cutoff ≤ cutoff ∧
    s' = { ((s.moved clock ticks).withCutoff cutoff).countIn row.householdId with
      reservations := s.reservations.put id row
      deferred := .promotion id row.kind :: s.deferred }

/-- The insert of a held reservation that promotes an intent. -/
structure Promoted (s s' : Store) (id : Uuid) (row : Reservation) (clock : Time) (ticks : List Nat)
    (old new : StartIntent) : Prop where
  found : s.intents.find id = some old
  unfenced : old.admissionFenced = false
  unpromoted : old.promoted = false
  promoted : new.promoted = true
  still : new.admissionFenced = false
  household : old.householdId = row.householdId
  owner : old.instanceId = row.instanceId
  amendment : Amendment false id old new
  result : s' = { s.moved clock ticks with
    reservations := s.reservations.put id row
    intents := s.intents.put id new
    deferred := .promotion id row.kind :: s.deferred }

theorem insertReservation_yields
    (ran : Yields (insertReservation id row) s u s') (held : row.state = .held) (unpruned : row.pruneAfter = none) :
    s.reservations.find id = none ∧ row.checks id = true ∧ ∃ clock ticks, s.clock ≤ clock ∧
      (Received s s' id row clock ticks ∨ ∃ old new, Promoted s s' id row clock ticks old new) := by
  obtain ⟨saved, middle, triggered, ran⟩ := yields_bind.mp ran
  simp only [yields_require_bind, yields_get_bind, yields_modify_bind] at ran
  obtain ⟨checks, absent, -, accounted⟩ := ran
  have absent := Option.isNone_iff_eq_none.mp absent
  simp only [playbackReceiptInsert, yields_get_bind] at triggered
  cases known : s.intents.find id with
  | some intent =>
    simp only [known, yields_clock_bind, yields_require_bind] at triggered
    obtain ⟨promotable, triggered⟩ := triggered
    obtain ⟨_, updated, promoting, triggered⟩ := yields_bind.mp triggered
    obtain ⟨rfl, rfl⟩ := yields_pure.mp triggered
    simp only [Playback.promotable, Bool.and_eq_true, decide_eq_true_eq, Bool.not_eq_true'] at promotable
    obtain ⟨none_found, -⟩ | ⟨old, new, clock, ticks, later, found, amendment, -, shape, rfl⟩ :=
      updateIntent_yields promoting
    · rw [show s.tick.intents.find id = some intent from known] at none_found
      cases none_found
    · have same : intent = old := Option.some.inj (known.symm.trans found)
      subst same
      have unreleased : Store.unreleased s.tick id = false := by
        have absent : s.tick.reservations.find id = none := absent
        simp [Store.unreleased, absent]
      rw [unreleased] at amendment
      have skipped := playbackReceiptAccountInsert_skips accounted (by simp)
      refine ⟨absent, checks, clock, ticks, le_trans (clock_le_tick s) later, .inr ⟨intent, new, ?_⟩⟩
      exact {
        found := known, unfenced := by tauto, unpromoted := by tauto, household := by tauto
        owner := by tauto
        promoted := by rw [shape], still := by rw [shape]; tauto
        amendment, result := skipped }
  | none =>
    simp only [known, yields_clock_bind, yields_require_bind] at triggered
    obtain ⟨-, triggered⟩ := triggered
    obtain ⟨_, updated, received, triggered⟩ := yields_bind.mp triggered
    obtain ⟨rfl, rfl⟩ := stampRelease_held triggered held unpruned
    obtain ⟨timely, recent, total, share, cutoff, later, rfl⟩ := receiveIdentity_yields received
    have fresh : ¬(ReceiptTable.reservations = .reservations ∧ (s.intents.find id).isSome = true) := by
      simp [known]
    have counted := playbackReceiptAccountInsert_yields accounted fresh
    refine ⟨absent, checks, s.tick.clock, s.tick.ticks, clock_le_tick s, .inl ?_⟩
    exact {
      unknown := known, timely, recent := recent.mono (truncate_le _), room := ⟨total, share⟩
      result := ⟨cutoff, later, counted.trans (countIn_received { (s.tick).withCutoff cutoff with
        reservations := s.reservations.put id saved
        deferred := .promotion id saved.kind :: s.deferred } saved.householdId)⟩ }

end Duskcue.Playback
