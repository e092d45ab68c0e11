import Duskcue.StoreGraph

/-! The transactions of the ledger and the operator as steps: each commits a
sequence of steps, and the caller's answer says what it found. -/
namespace Duskcue.Playback
open Transaction Relation

variable {failure : Failure} {r : Reservation}

variable {α : Type} {action : Tx α}

/-- A transaction that took its steps and passed COMMIT. -/
def Commits (s s' : Store) : Prop := ∃ middle, Steps s middle ∧ Committed middle s'

theorem commit_yields (ran : Yields commit s u s') : Committed s s' := by
  simp only [commit, yields_get_bind, yields_expect_bind, yields_modify, Bool.and_eq_true,
    List.all_eq_true] at ran
  exact ⟨ran.1.1, ran.1.2, ran.2⟩

variable {a : α} {action : Tx α} {s s' : Store}

theorem transaction_yields :
    Yields (transaction action) s a s' → ∃ middle, Yields action s a middle ∧ Committed middle s' := by
  intro ran
  obtain ⟨value, middle, acted, rest⟩ := yields_bind.mp ran
  obtain ⟨_, after, committed, last⟩ := yields_bind.mp rest
  obtain ⟨rfl, rfl⟩ := yields_pure.mp last
  exact ⟨middle, acted, commit_yields committed⟩

theorem transaction_commits
    (within : Within Step action) (ran : Yields (transaction action) s a s') : Commits s s' := by
  obtain ⟨middle, acted, committed⟩ := transaction_yields ran
  exact ⟨middle, within _ _ _ acted, committed⟩

/-- COMMIT adds no error but its own. -/
theorem transaction_error (other : failure ≠ .refused .indeterminate) :
    (transaction action).run s = .error failure ↔ action.run s = .error failure := by
  unfold transaction
  cases ran : action.run s with
  | error => rw [run_bind_of_error ran]
  | ok reply =>
    have committing : Raises (· = .refused .indeterminate) (do
        commit
        return reply.1) :=
      .bind (.bind .get fun _ => .bind (.ensure rfl) fun _ => .modify) fun _ => .pure
    rw [run_bind_of_yields ran]
    exact iff_of_false (fun failed => other (committing _ _ failed)) (by simp)

theorem expect_fails (fails : condition = false) : (expect condition error).run s = .error (.refused error) := by
  subst fails
  rfl

theorem Settled.commits (settled : Settled s) (commits : Commits s s') : Settled s' := by
  obtain ⟨middle, steps, committed⟩ := commits
  exact committed.settled (settled.toConsistent.steps steps)

/-! ## Claim -/

variable {instanceId : Uuid} {u : Unit}

theorem requireInstance_yields
    (ran : Yields (requireInstance instanceId true) s u s') : s' = s ∧ Unfenced s instanceId := by
  simp only [requireInstance, yields_get_bind, yields_expect, Bool.not_true, Bool.or_false,
    Option.any_eq_true, Bool.not_eq_true'] at ran
  exact ⟨ran.2, ran.1⟩

variable {id : Uuid} {receipt : Receipt}

theorem Reservation.receipt_eq (made : r.receipt id now fresh owner = .ok receipt) :
    receipt.id = id ∧ receipt.fresh = fresh := by
  unfold Reservation.receipt at made
  split at made
  · cases made
  · split at made
    · cases made
      exact ⟨rfl, rfl⟩
    · cases made

theorem Reservation.receipt_times (made : r.receipt id now fresh owner = .ok receipt) :
    receipt.deadline = r.deadline ∧ receipt.observedAt = now := by
  unfold Reservation.receipt at made
  split at made
  · cases made
  · split at made
    · cases made
      exact ⟨rfl, rfl⟩
    · cases made

/-- A receipt of a deadline that was set after the receipt's reading of the clock, to a
minute from then. -/
structure Granted (id : Uuid) (receipt : Receipt) (s s' : Store) : Prop where
  since : s.clock ≤ receipt.observedAt
  whole : receipt.observedAt + 60 * second ≤ receipt.deadline
  ahead : receipt.deadline ≤ s'.clock + 60 * second
  stored : ∃ row, s'.reservations.find id = some row ∧ row.deadline = receipt.deadline

theorem Granted.ticked (granted : Granted id receipt t s') (later : s.clock ≤ t.clock) : Granted id receipt s s' :=
  ⟨later.trans granted.since, granted.whole, granted.ahead, granted.stored⟩

theorem Granted.committed (granted : Granted id receipt s middle) (committed : Committed middle s') :
    Granted id receipt s s' := by
  rw [committed.cleared]
  exact ⟨granted.since, granted.whole, granted.ahead, granted.stored⟩

theorem Step.clock (step : Step s s') : s.clock ≤ s'.clock := by
  cases step with
  | tick _ later => exact later
  | expire _ _ _ _ _ account =>
    rcases account with ⟨-, rfl⟩ | ⟨-, -, -, rfl⟩
    · exact le_rfl
    · exact le_rfl
  | _ => exact le_rfl

theorem Steps.clock (steps : Steps s s') : s.clock ≤ s'.clock := by
  induction steps with
  | refl => exact le_rfl
  | tail _ last ih => exact ih.trans last.clock

theorem vodMatches_yields (ran : Yields (vodMatches id binding) s u s') : s' = s := by
  simp only [vodMatches, yields_get_bind, yields_expect] at ran
  exact ran.2

variable {authority : Authority} {binding : Option Binding} {request : Request}

theorem replayClaim_yields
        (ran : Yields (replayClaim instanceId request binding authority fingerprint now row) s receipt s') :
    Steps s s' ∧ receipt.id = request.id ∧ receipt.fresh = false := by
  simp only [replayClaim, yields_expect_bind] at ran
  obtain ⟨_, matched, found, rest⟩ := yields_bind.mp ran.2
  rw [vodMatches_yields found, yields_get_bind] at rest
  split at rest
  · obtain ⟨_, retired, retiring, last⟩ := yields_bind.mp rest
    obtain ⟨made, rfl⟩ := yields_liftExcept.mp last
    exact ⟨retireReservation_steps _ _ _ _ retiring, Reservation.receipt_eq made⟩
  · obtain ⟨made, rfl⟩ := yields_liftExcept.mp rest
    exact ⟨.refl, Reservation.receipt_eq made⟩

theorem vodPolicy_yields (ran : Yields (vodPolicy user) s policy s') :
    s' = s ∧ playbackVodPolicy s.directory user = some policy := by
  simp only [vodPolicy, yields_get_bind, yields_present_bind, yields_expect_bind, yields_pure] at ran
  obtain ⟨found, known, -, rfl, rfl⟩ := ran
  exact ⟨rfl, known⟩

theorem admitBinding_yields (ran : Yields (admitBinding request authority binding) s u s') :
    s' = s ∧ ∀ b, binding = some b → b.encodes = true → ∃ policy,
      playbackVodPolicy s.directory request.actor.user = some policy ∧
        allows policy.transcode (s.encoders request.actor.user) = true := by
  cases binding with
  | none => exact ⟨(yields_pure.mp ran).2, by simp⟩
  | some =>
    simp only [admitBinding, vodAmbient, yields_expect_bind] at ran
    obtain ⟨policy, middle, known, rest⟩ := yields_bind.mp ran.2
    obtain ⟨rfl, known⟩ := vodPolicy_yields known
    simp only [yields_expect_bind, yields_get_bind, yields_expect] at rest
    obtain ⟨-, -, room, rfl⟩ := rest
    refine ⟨rfl, ?_⟩
    rintro _ ⟨⟩ encodes
    exact ⟨policy, known, by simpa [encodes] using room⟩

theorem verify_live (ok : verify d authority request saved = .ok verified) (live : request.subject.kind = .live) :
    d.liveCeiling request.actor.user = some verified.cap := by
  unfold verify at ok
  split at ok
  · cases ok
  · cases ok
  · split at ok
    · rename_i subject
      simp [subject, Subject.kind] at live
    · split at ok
      · cases ok
      · rename_i a found
        split at ok
        · cases ok
        · split at ok
          · rename_i valid
            cases ok
            rw [Directory.liveCeiling, found]
            exact if_pos valid
          · cases ok

theorem vodInsert_yields (ran : Yields (vodInsert id binding) s u s') :
    (binding.map Binding.command = none ∨ s.commands.find id = none) ∧
      s' = { s with
        commands := (binding.map Binding.command).elim s.commands (s.commands.put id) } := by
  cases binding with
  | none => exact ⟨.inl rfl, (yields_pure.mp ran).2⟩
  | some =>
    obtain ⟨absent, rfl⟩ := insertCommand_yields ran
    exact ⟨.inr absent, rfl⟩

/-- The insert of a reservation beside its command, as one step. -/
theorem admission_steps (command : Option Command) (later : s.clock ≤ clock)
    (admission : Admission (s.moved clock ticks) id row command) (insertion : Received s inserted id row clock ticks ∨
      ∃ old new, Promoted s inserted id row clock ticks old new)
    (written : s' = { inserted with commands := command.elim s.commands (s.commands.put id) }) :
    Steps s s' := by
  refine .head (.tick ticks later) (.single ?_)
  rcases insertion with received | ⟨old, new, promoted⟩
  · obtain ⟨unknown, timely, recent, room, cutoff, raised, rfl⟩ := received
    subst written
    exact .reserve admission unknown timely raised room recent
  · obtain ⟨found, unfenced, unpromoted, promotes, still, household, owner, amendment, rfl⟩ := promoted
    subst written
    exact .promote admission found unfenced unpromoted promotes still household amendment owner

theorem inserted_commands (insertion : Received s inserted id row clock ticks ∨
      ∃ old new, Promoted s inserted id row clock ticks old new) :
    inserted.commands = s.commands ∧ inserted.reservations = s.reservations.put id row := by
  rcases insertion with ⟨-, -, -, -, cutoff, -, rfl⟩ | ⟨old, new, -, -, -, -, -, -, -, -, rfl⟩
  · exact ⟨rfl, rfl⟩
  · exact ⟨rfl, rfl⟩

theorem admitClaim_yields (unfenced : Unfenced s instanceId)
    (ran : Yields (admitClaim instanceId request binding authority fingerprint now) s receipt s') :
    Steps s s' ∧ receipt.id = request.id ∧ s.reservations.find request.id = none ∧
      (s.clock = now → Granted request.id receipt s s') ∧
      ∃ row, row.state = .held ∧ s'.reservations = s.reservations.put request.id row := by
  simp only [admitClaim, yields_get_bind, yields_liftExcept_bind] at ran
  obtain ⟨cap, ceiling, rest⟩ := ran
  obtain ⟨_, _, bound, admitting⟩ := yields_bind.mp rest
  obtain ⟨same, encoderRoom⟩ := admitBinding_yields bound
  rw [same] at admitting
  simp only [insertClaim, yields_get_bind, yields_liftExcept_bind, yields_expect_bind,
    yields_clock_bind, Bool.and_eq_true, Bool.or_eq_true, decide_eq_true_eq, ne_eq] at admitting
  obtain ⟨verified, ok, ⟨room, liveRoom⟩, inserting⟩ := admitting
  obtain ⟨_, inserted, insertion, commanding⟩ := yields_bind.mp inserting
  obtain ⟨_, written, commanded, answering⟩ := yields_bind.mp commanding
  simp only [yields_get_bind, yields_present_bind, yields_liftExcept] at answering
  obtain ⟨row, stored, made, rfl⟩ := answering
  obtain ⟨absent, checks, clock, ticks, later, insertion⟩ := insertReservation_yields insertion rfl rfl
  obtain ⟨commands, reservations⟩ := inserted_commands insertion
  obtain ⟨bare, rfl⟩ := vodInsert_yields commanded
  suffices steps : Steps s.tick.tick _ by
    refine ⟨(ticked_tick s).steps.trans ((ticked_tick _).steps.trans steps),
      (Reservation.receipt_eq made).1, absent, ?_, _, ?_, reservations⟩
    on_goal 2 => rfl
    intro current
    obtain ⟨expires, observed⟩ := Reservation.receipt_times made
    have stored := stored
    simp only [reservations, Table.find_put_self, Option.some.injEq] at stored
    have granted : receipt.deadline = s.tick.clock + 60 * second := by rw [expires, ← stored]
    have before := clock_le_tick s
    have after := (clock_le_tick s.tick).trans steps.clock
    refine ⟨by rw [observed, current], ?_, ?_, row, ‹_›, expires.symm⟩
    · rw [granted, observed, ← current]
      exact Int.add_le_add_right before _
    · rw [granted]
      exact Int.add_le_add_right after _
  refine admission_steps (binding.map Binding.command) later ?_ insertion (by rw [commands])
  refine ⟨absent, rfl, unfenced, checks, ⟨cap, ceiling, room⟩, fun live => ?_, ?_, ?_⟩
  · exact ⟨verified.cap, verify_live ok live, liveRoom.resolve_left (not_not.mpr live)⟩
  · rw [commands] at bare
    exact bare
  · intro c commanded encodes
    obtain ⟨b, rfl, rfl⟩ := Option.map_eq_some_iff.mp commanded
    exact encoderRoom b rfl encodes

theorem missing_throws
    (ran : Yields (do
      missing id
      throw failure) s receipt s') : False := by
  obtain ⟨_, _, _, thrown⟩ := yields_bind.mp ran
  exact yields_throw thrown

theorem claim_commits {allowInsert : Bool}
        (ran : Yields (claim instanceId request allowInsert binding authority) s receipt s') :
    Commits s s' ∧ receipt.id = request.id ∧ (receipt.fresh = true →
      s.reservations.find request.id = none ∧ Granted request.id receipt s s') := by
  obtain ⟨middle, acted, committed⟩ := transaction_yields ran
  simp only [requireHousehold, bind_assoc, yields_liftExcept_bind] at acted
  obtain ⟨fingerprint, -, rest⟩ := acted
  obtain ⟨_, _, registered, rest⟩ := yields_bind.mp rest
  obtain ⟨same, unfenced⟩ := requireInstance_yields registered
  rw [same] at rest
  simp only [yields_get_bind, yields_expect_bind, yields_clock_bind] at rest
  cases found : s.tick.reservations.find request.id with
  | some =>
    simp only [found] at rest
    obtain ⟨steps, named, stale⟩ := replayClaim_yields rest.2
    exact ⟨⟨middle, (ticked_tick s).steps.trans steps, committed⟩, named, by simp [stale]⟩
  | none =>
    simp only [found] at rest
    split at rest
    · obtain ⟨steps, named, absent, grants, -⟩ := admitClaim_yields (s := s.tick) unfenced rest.2
      exact ⟨⟨middle, (ticked_tick s).steps.trans steps, committed⟩, named,
        fun _ => ⟨absent, ((grants rfl).ticked (clock_le_tick s)).committed committed⟩⟩
    · exact (missing_throws rest.2).elim

/-! ## Check and renewal -/

theorem checkBinding_yields (ran : Yields (checkBinding request authority binding) s u s') : s' = s := by
  cases binding with
  | none => exact (yields_pure.mp ran).2
  | some =>
    simp only [checkBinding, vodAmbient, yields_expect_bind] at ran
    obtain ⟨policy, middle, known, rest⟩ := yields_bind.mp ran.2
    obtain ⟨same, -⟩ := vodPolicy_yields known
    rw [same] at rest
    simp only [yields_get_bind, yields_expect] at rest
    exact rest.2

/-- A renewal sets the deadline of a held viewer to a minute from its second reading of
the clock. -/
theorem renewDeadline_yields (unfenced : Unfenced s instanceId)
    (owned : ∀ row, s.reservations.find id = some row → row.instanceId = instanceId)
    (ran : Yields (renewDeadline id) s u s') :
    Steps s s' ∧ ∃ row, s'.reservations = s.reservations.put id row ∧ row.state = .held ∧
      s.clock + 60 * second ≤ row.deadline ∧ row.deadline ≤ s'.clock + 60 * second := by
  simp only [renewDeadline, yields_clock_bind, yields_get_bind, yields_expect_bind] at ran
  have open_ : ∀ old, s.tick.tick.reservations.find id = some old →
      Unfenced s.tick.tick old.instanceId := fun old found => owned old found ▸ unfenced
  have held : ∀ old, s.tick.tick.reservations.find id = some old → old.state = .held := by
    intro old found
    have found : s.tick.reservations.find id = some old := found
    have renewed := ran.1
    simp only [found, Option.any_some, Bool.and_eq_true, decide_eq_true_eq] at renewed
    exact renewed.2
  obtain ⟨steps, ⟨absent, -⟩ | ⟨old, new, updated⟩⟩ :=
    updateReservation_yields ran.2 (fun old found => .inr ⟨open_ old found, rfl⟩)
      fun old found released => by cases (held old found).symm.trans released
  · have absent : s.tick.reservations.find id = none := absent
    have there := ran.1
    simp [absent] at there
  · refine ⟨(ticked_tick s).steps.trans ((ticked_tick _).steps.trans steps), new, updated.written,
      updated.state.trans (held old updated.found), ?_, ?_⟩
    · rw [updated.deadline]
      exact Int.add_le_add_right ((clock_le_tick s).trans (clock_le_tick s.tick)) _
    · rw [updated.deadline]
      exact Int.add_le_add_right steps.clock _

/-- What a check has read, and whether it has renewed. -/
structure ViewerCheck (instanceId : Uuid) (request : Request) (renew : Bool) (receipt : Receipt)
    (s s' : Store) (row stored : Reservation) : Prop where
  found : s.reservations.find request.id = some row
  owner : row.instanceId = instanceId
  held : row.state = .held
  current : s.tick.clock < row.deadline
  unfenced : Unfenced s instanceId
  renewed : renew = false ∧ s' = s.tick ∨
    renew = true ∧ ∃ u, Yields (renewDeadline request.id) s.tick u s'
  saved : s'.reservations.find request.id = some stored
  made : stored.receipt request.id s.tick.clock false instanceId = .ok receipt

theorem checkOn_checked (ran : Yields (checkOn instanceId request renew binding authority) s receipt s') :
    ∃ row stored, ViewerCheck instanceId request renew receipt s s' row stored := by
  simp only [checkOn, requireHousehold, bind_assoc, yields_liftExcept_bind] at ran
  obtain ⟨fingerprint, -, rest⟩ := ran
  obtain ⟨_, _, registered, rest⟩ := yields_bind.mp rest
  obtain ⟨same, unfenced⟩ := requireInstance_yields registered
  rw [same] at rest
  simp only [yields_get_bind, yields_expect_bind, yields_present_bind, yields_clock_bind,
    yields_liftExcept_bind, Bool.and_eq_true, decide_eq_true_eq] at rest
  obtain ⟨-, row, found, ⟨owner, -⟩, ⟨held, current⟩, cap, -, rest⟩ := rest
  obtain ⟨_, _, matched, rest⟩ := yields_bind.mp rest
  rw [vodMatches_yields matched] at rest
  obtain ⟨_, _, checked, rest⟩ := yields_bind.mp rest
  rw [checkBinding_yields checked] at rest
  simp only [yields_get_bind, yields_liftExcept_bind] at rest
  obtain ⟨verified, -, rest⟩ := rest
  cases renew with
  | false =>
    simp only [Bool.false_eq_true, if_false, yields_get_bind, yields_present_bind, yields_liftExcept] at rest
    obtain ⟨stored, there, made, rfl⟩ := rest
    exact ⟨row, stored, found, owner, held, current, unfenced, .inl ⟨rfl, rfl⟩, there, made⟩
  | true =>
    simp only [if_true] at rest
    obtain ⟨u, renewed, renewal, answering⟩ := yields_bind.mp rest
    simp only [yields_get_bind, yields_present_bind, yields_liftExcept] at answering
    obtain ⟨stored, there, made, rfl⟩ := answering
    exact ⟨row, stored, found, owner, held, current, unfenced, .inr ⟨rfl, u, renewal⟩, there, made⟩

variable {renew : Bool}

theorem ViewerCheck.renewal
    (checked : ViewerCheck instanceId request renew receipt s s' row stored) (renews : renew = true) :
    Steps s.tick s' ∧ s'.reservations = s.reservations.put request.id stored ∧ stored.state = .held ∧
      s.tick.clock + 60 * second ≤ stored.deadline ∧ stored.deadline ≤ s'.clock + 60 * second := by
  obtain ⟨kept, -⟩ | ⟨-, u, renewal⟩ := checked.renewed
  · cases kept.symm.trans renews
  · have owned : ∀ other, s.tick.reservations.find request.id = some other →
        other.instanceId = instanceId := by
      intro other known
      cases checked.found.symm.trans known
      exact checked.owner
    obtain ⟨steps, new, written, held, whole, ahead⟩ :=
      renewDeadline_yields (s := s.tick) checked.unfenced owned renewal
    have there := checked.saved
    rw [written, Table.find_put_self] at there
    cases there
    exact ⟨steps, written, held, whole, ahead⟩

/-- A check reads an unfenced instance's held viewer; without renewal it writes
nothing. -/
theorem checkOn_yields (ran : Yields (checkOn instanceId request renew binding authority) s receipt s') :
    Steps s s' ∧ (renew = false → Ticked s s') ∧ receipt.fresh = false ∧
      (renew = true → Granted request.id receipt s s') ∧
      ∃ row, s.reservations.find request.id = some row ∧ row.state = .held := by
  obtain ⟨row, stored, checked⟩ := checkOn_checked ran
  have stale := (Reservation.receipt_eq checked.made).2
  cases renew with
  | false =>
    obtain ⟨-, rfl⟩ | ⟨renews, -⟩ := checked.renewed
    · exact ⟨(ticked_tick s).steps, fun _ => ticked_tick s, stale, by simp, row, checked.found, checked.held⟩
    · cases renews
  | true =>
    obtain ⟨steps, -, -, whole, ahead⟩ := checked.renewal rfl
    obtain ⟨expires, observed⟩ := Reservation.receipt_times checked.made
    have granted : Granted request.id receipt s s' :=
      ⟨observed ▸ clock_le_tick s, by rw [observed, expires]; exact whole, expires ▸ ahead, stored,
        checked.saved, expires.symm⟩
    exact ⟨(ticked_tick s).steps.trans steps, by simp, stale, fun _ => granted, row, checked.found,
      checked.held⟩

theorem check_commits (ran : Yields (check instanceId request renew binding authority) s receipt s') :
    Commits s s' ∧ receipt.fresh = false ∧ (renew = true → Granted request.id receipt s s') := by
  obtain ⟨middle, acted, committed⟩ := transaction_yields ran
  obtain ⟨steps, -, stale, grants, -⟩ := checkOn_yields acted
  exact ⟨⟨middle, steps, committed⟩, stale, fun renews => (grants renews).committed committed⟩

/-- An action behind a check starts from a held viewer, and the clock alone has
moved. -/
theorem activeSql_yields (ran : Yields (activeSql instanceId request binding authority action) s a s') :
    ∃ clock ticks middle, s.clock ≤ clock ∧ Yields action (s.moved clock ticks) a middle ∧
      Committed middle s' ∧ ∃ row, s.reservations.find request.id = some row ∧ row.state = .held := by
  obtain ⟨middle, acted, committed⟩ := transaction_yields ran
  obtain ⟨receipt, _, checked, rest⟩ := yields_bind.mp acted
  obtain ⟨-, reads, -, -, held⟩ := checkOn_yields checked
  obtain ⟨clock, ticks, later, rfl⟩ := reads rfl
  exact ⟨clock, ticks, middle, later, rest, committed, held⟩

/-! ## Retire -/

theorem releaseCommand_steps (id : Uuid) : Within Step (releaseCommand id) :=
  updateCommand_steps _ _

theorem retire_commits (ran : Yields (retire instanceId request release) s u s') : Commits s s' := by
  obtain ⟨middle, acted, committed⟩ := transaction_yields ran
  refine ⟨middle, ?_, committed⟩
  simp only [requireInstance, bind_assoc, yields_liftExcept_bind, yields_get_bind, yields_expect_bind] at acted
  obtain ⟨fingerprint, -, -, rest⟩ := acted
  cases found : s.reservations.find request.id with
  | none =>
    simp only [found, yields_pure] at rest
    rw [rest.2]
  | some =>
    simp only [found, yields_expect_bind] at rest
    cases release with
    | false =>
      simp only [Bool.false_eq_true, if_false] at rest
      exact retireReservation_steps _ _ _ _ rest.2
    | true =>
      simp only [if_true] at rest
      obtain ⟨_, completed, completing, rest⟩ := yields_bind.mp rest.2
      obtain ⟨_, commanded, commanding, rest⟩ := yields_bind.mp rest
      rw [yields_clock_bind] at rest
      have retired : ∀ v, commanded.tick.controls.find request.id = some v → v.state = .retiring := by
        obtain ⟨-, commands, rfl⟩ := updateCommand_yields commanding
        exact (playbackVodCompleteOutputs_controls completing).1
      exact (playbackVodCompleteOutputs_steps _ _ _ _ completing).trans
        ((releaseCommand_steps _ _ _ _ commanding).trans ((ticked_tick _).steps.trans
          (updateReservation_yields rest (fun _ _ => .inl rfl) fun _ _ _ => retired).1))

/-! ## Prune -/

theorem tally_steps {β : Type} {visit : β → Tx Nat} (each : ∀ x, Within Step (visit x)) (xs : List β) :
    Within Step (tally visit xs) := by
  induction xs with
  | nil => exact .pure
  | cons x _ ih => exact .bind (each x) fun _ => .bind ih fun _ => .pure

theorem dropCurrent_steps
    (admitted : s.reservations.find viewer = some row) (released : row.state = .released)
    (ran : Yields (updateControl 1 viewer fun v => { v with
        currentOutput := none, checkpointOutput := none, checkpointSequence := 0
        checkpointPosition := none }) s found s') : Steps s s' := by
  obtain ⟨-, -, rfl⟩ | ⟨old, new, known, -, write, revised, rfl⟩ := updateControl_yields ran
  · exact .refl
  · refine .single (.updateControl (revised.update known write rfl (.inl rfl)
      (fun _ => .inr ⟨rfl, rfl⟩) (fun operation pending => .inl ⟨pending, .inr fun r other => ?_⟩)
      (.inr rfl)))
    cases admitted.symm.trans other
    exact released

theorem pruneOperation_steps (id viewer : Uuid) : Within Step (pruneOperation id viewer) := by
  intro s deleted s' ran
  simp only [pruneOperation, yields_get_bind] at ran
  cases known : s.operations.find id with
  | none =>
    simp only [known, yields_pure] at ran
    rw [ran.2]
  | some operation =>
    simp only [known, yields_get_bind, yields_present_bind] at ran
    obtain ⟨control, -, row, admitted, rest⟩ := ran
    have outputs : ∀ t (xs : List Uuid), Steps s t → Yields (do
        forEach deleteOutput xs
        if operation.reservationId = viewer then
          deleteOperation id
          return 1
        else
          return 0 : Tx Nat) t deleted s' → Steps s s' := by
      intro t xs before deleting
      obtain ⟨_, discarded, outputs, last⟩ := yields_bind.mp deleting
      have outputs := Within.forEach xs (fun output _ => deleteOutput_steps output) _ _ _ outputs
      refine before.trans (outputs.trans ?_)
      split at last
      · obtain ⟨_, removed, removing, answer⟩ := yields_bind.mp last
        obtain ⟨-, rfl⟩ := yields_pure.mp answer
        exact deleteOperation_steps _ _ _ _ removing
      · rw [(yields_pure.mp last).2]
    split at rest
    · rw [(yields_pure.mp rest).2]
    · split at rest
      · rename_i dropping
        obtain ⟨_, dropped, drop, deleting⟩ := yields_bind.mp rest
        rw [yields_get_bind] at deleting
        exact outputs _ _ (dropCurrent_steps admitted (by simpa using dropping.1) drop) deleting
      · rw [yields_get_bind] at rest
        exact outputs _ _ .refl rest

theorem pruneOperations_steps (unlocked : Bool) : Within Step (pruneOperations unlocked) := by
  intro s deleted s' ran
  simp only [pruneOperations, yields_clock_bind, yields_get_bind] at ran
  obtain ⟨_, locked, locking, rest⟩ := yields_bind.mp ran
  rw [yields_clock_bind] at rest
  obtain ⟨_, raised, raising, rest⟩ := yields_bind.mp rest
  obtain ⟨later, -, rfl⟩ := updateOperationRetention_yields raising
  have locking : Steps s.tick locked := by
    refine Within.forEach _ (fun entry _ => ?_) _ _ _ locking
    intro t _ t' ran
    simp only [yields_get_bind, yields_present_bind, yields_pure] at ran
    obtain ⟨-, -, -, rfl⟩ := ran
    exact .refl
  exact (ticked_tick s).steps.trans (locking.trans ((ticked_tick _).steps.trans (.head (.retain later)
    (tally_steps (fun entry => pruneOperation_steps _ _) _ _ _ _ rest))))

theorem pruneStart_steps (observedAt : Time) (candidate : Uuid) :
    Within Step (pruneStart observedAt candidate) := by
  refine .bind .get fun s => .ite (fun _ => .pure) fun _ => .bind .get fun t => ?_
  refine .ite (fun _ => .bind (deleteReservation_steps candidate) fun _ => .bind .get fun t => ?_)
    fun _ => .bind .get fun t => ?_
  all_goals exact .ite (fun _ => .pure) fun _ => .bind (deleteIntent_steps candidate) fun _ => .pure

theorem clockTimestamp_steps : Within Step clockTimestamp := by
  intro s now s' ran
  obtain ⟨-, rfl⟩ := yields_clock.mp ran
  exact (ticked_tick s).steps

theorem raiseCutoff_steps (depth : Nat) (floor : Time) :
    Within Step (updateRetention depth (raiseCutoff floor)) :=
  fun _ _ _ ran => .single (raiseCutoff_step ran)

theorem prune_commits {unlocked : Bool}
    {receipt : MaintenanceReceipt} (ran : Yields (prune instanceId unlocked skipped) s receipt s') :
    Commits s s' := by
  have starts : ∀ budget, Within Step (playbackStartPrune budget skipped) := fun budget =>
    .bind clockTimestamp_steps fun observedAt => .bind .ensure fun _ => .bind .get fun s =>
      tally_steps (fun entry => pruneStart_steps _ _) _
  have receipts : ∀ limit now, Within Step (pruneReceipts limit now skipped) := fun limit now =>
    .bind .get fun s => .bind (.forEach _ fun id _ => deleteReservation_steps id) fun _ => .pure
  refine transaction_commits (.bind (.bind .get fun _ => .ensure) fun _ => ?_) ran
  refine .bind (pruneOperations_steps unlocked) fun operations => .bind clockTimestamp_steps fun _ => ?_
  refine .bind (raiseCutoff_steps _ _) fun _ => .bind .get fun _ => .bind clockTimestamp_steps fun _ => ?_
  exact .bind (starts _) fun _ => .bind (receipts _ _) fun _ => .pure

/-! ## Instances and the operator -/

theorem register_commits (ran : Yields (register instanceId) s u s') : Commits s s' := by
  obtain ⟨middle, acted, committed⟩ := transaction_yields ran
  simp only [insertInstance, yields_require_bind, yields_clock_bind, yields_get_bind, yields_modify,
    Option.isNone_iff_eq_none] at acted
  obtain ⟨-, -, absent, rfl⟩ := acted
  exact ⟨_, (ticked_tick s).steps.tail (.enroll absent rfl), committed⟩

theorem fenceIntent_steps (id : Uuid) :
    Within Step (updateIntent id fun i => { i with admissionFenced := true }) :=
  updateIntent_steps fun _ => rfl

theorem recordOperator_steps (event : OperatorEvent) : Within Step (recordOperator event) := by
  intro s u s' ran
  rw [yields_modify.mp ran]
  exact .single (.record event)

theorem fence_commits (ran : Yields (fence instanceId expected) s revision s') : Commits s s' := by
  obtain ⟨middle, acted, committed⟩ := transaction_yields ran
  refine ⟨middle, ?_, committed⟩
  simp only [yields_clock_bind, yields_get_bind] at acted
  cases found : s.tick.instances.find instanceId with
  | none => simp [found] at acted
  | some row =>
    simp only [found, updateInstance, yields_expect_bind, yields_modify_bind, yields_get_bind] at acted
    have rest : ∀ {t} {xs : List Uuid}, Yields (do
        forEach (fun id => updateIntent id fun i => { i with admissionFenced := true }) xs
        retireWhere fun _ _ r => r.instanceId = instanceId
        recordOperator ⟨instanceId, row.revision + 1, .fence⟩
        return row.revision + 1) t revision middle → Steps t middle := by
      intro t xs
      exact Within.bind (.forEach _ fun id _ => fenceIntent_steps id) (fun _ => .bind
        (retireWhere_steps _) fun _ => .bind (recordOperator_steps _) fun _ => .pure) _ _ _
    refine (ticked_tick s).steps.trans (.head (.operate found ?_) (rest acted.2))
    simp

/-- The release of one viewer of a reconciled instance. -/
theorem releaseReservation_yields (ran : Yields (do
    let now ← clockTimestamp
    updateReservation id fun r => { r with state := .released, releasedAt := some now }) s u s')
    (retired : ∀ v, s.controls.find id = some v → v.state = .retiring) :
    Steps s s' ∧ s'.controls = s.controls := by
  rw [yields_clock_bind] at ran
  obtain ⟨steps, ⟨-, rfl⟩ | ⟨old, new, updated⟩⟩ :=
    updateReservation_yields ran (fun _ _ => .inl rfl) fun _ _ _ => retired
  · exact ⟨(ticked_tick s).steps, rfl⟩
  · exact ⟨(ticked_tick s).steps.trans steps, updated.controls⟩

/-- The release of a reconciled instance's viewers, whose controls all retire. -/
theorem releaseReservations_steps {ids : List Uuid}
    (ran : Yields (forEach (fun id => do
      let now ← clockTimestamp
      updateReservation id fun r => { r with state := .released, releasedAt := some now }) ids) s u s')
    (retired : ∀ id ∈ ids, ∀ v, s.controls.find id = some v → v.state = .retiring) : Steps s s' := by
  have both := forEach_preserves (fun t => Steps s t ∧ t.controls = s.controls)
    (fun id member t u t' visited ⟨steps, same⟩ => by
      obtain ⟨more, kept⟩ := releaseReservation_yields visited (by rw [same]; exact retired id member)
      exact ⟨steps.trans more, kept.trans same⟩) ran ⟨.refl, rfl⟩
  exact both.1

theorem completeViewers_retire {viewers : List Uuid} (completing : Yields (forEach playbackVodCompleteOutputs
      (viewers.insertionSort fun a b => a.toNat ≤ b.toNat)) s u completed)
    (commanding : Yields (forEach releaseCommand viewers) completed v s') :
    ∀ id ∈ viewers, ∀ control, s'.controls.find id = some control → control.state = .retiring := by
  have kept : s'.controls = completed.controls :=
    forEach_preserves (fun t => t.controls = completed.controls) (fun id _ t u t' visited same => by
      obtain ⟨-, commands, rfl⟩ := updateCommand_yields visited
      exact same) commanding rfl
  rw [kept]
  have each := forEach_establishes (fun _ => True)
    (fun id t => ∀ control, t.controls.find id = some control → control.state = .retiring)
    (fun _ _ _ _ _ _ _ => trivial)
    (fun id _ t u t' visited _ => (playbackVodCompleteOutputs_controls visited).1)
    (fun id _ other t u t' visited _ before control found => by
      by_cases same : other = id
      · exact (playbackVodCompleteOutputs_controls visited).1 control (same ▸ found)
      · exact before control ((playbackVodCompleteOutputs_controls visited).2.1 other same ▸ found))
    completing trivial
  exact fun id member => each id ((List.mem_insertionSort _).mpr member)

theorem completeIntent_steps (id : Uuid) : Within Step (updateIntent id fun i =>
    { i with admissionFenced := true, preparationComplete := true }) :=
  updateIntent_steps fun _ => rfl

theorem reconcile_commits {revision : Int} (ran : Yields (reconcile instanceId revision resourcesGone) s count s') :
    Commits s s' := by
  simp only [reconcile, yields_expect_bind] at ran
  obtain ⟨middle, acted, committed⟩ := transaction_yields ran.2
  refine ⟨middle, ?_, committed⟩
  simp only [yields_get_bind] at acted
  cases found : s.instances.find instanceId with
  | none => simp [found] at acted
  | some =>
    simp only [found, yields_expect_bind, yields_get_bind] at acted
    obtain ⟨agreed, acted⟩ := acted
    obtain ⟨_, completed, completing, rest⟩ := yields_bind.mp acted
    obtain ⟨_, commanded, commanding, rest⟩ := yields_bind.mp rest
    obtain ⟨_, released, releasing, rest⟩ := yields_bind.mp rest
    rw [yields_get_bind] at rest
    obtain ⟨_, settled, settling, rest⟩ := yields_bind.mp rest
    simp only [updateInstance, yields_clock_bind, yields_modify_bind] at rest
    have retired := completeViewers_retire completing commanding
    have steps : Steps s settled.tick :=
      (Within.forEach _ (fun id _ => playbackVodCompleteOutputs_steps id) _ _ _ completing).trans
        ((Within.forEach _ (fun id _ => releaseCommand_steps id) _ _ _ commanding).trans
          ((releaseReservations_steps releasing retired).trans
            ((Within.forEach _ (fun id _ => completeIntent_steps id) _ _ _ settling).trans
              (ticked_tick settled).steps)))
    obtain ⟨old, known, -⟩ := steps.registered found
    obtain ⟨_, recorded, recording, last⟩ := yields_bind.mp rest
    obtain ⟨-, rfl⟩ := yields_pure.mp last
    refine steps.trans (.head (.operate known ?_) (recordOperator_steps _ _ _ _ recording))
    simp only [Bool.and_eq_true] at agreed
    exact fun _ => agreed.1

end Duskcue.Playback
