import Duskcue.StartSettlement

/-! What the operator's fence and reconciliation leave behind. A fenced instance
takes no admission and extends no deadline, so what holds of its rows and is
kept by every other update holds for good. -/
namespace Duskcue.Playback
open Transaction

variable {id instanceId : Uuid} {s s' : Store} {sys : System}

/-! ## Rows of a fenced instance -/

/-- The instance is registered and fenced. -/
def Fenced (instanceId : Uuid) (s : Store) : Prop :=
  ∃ row, s.instances.find instanceId = some row ∧ row.fenced = true

theorem Fenced.step (fenced : Fenced instanceId s) (step : Step s s') : Fenced instanceId s' := by
  obtain ⟨row, found, set⟩ := fenced
  obtain ⟨new, kept, still⟩ := step.registered found
  exact ⟨new, kept, still set⟩

theorem Fenced.closed (fenced : Fenced instanceId s) : ¬ Unfenced s instanceId := by
  rintro ⟨row, found, unset⟩
  obtain ⟨same, known, set⟩ := fenced
  cases found.symm.trans known
  cases unset.symm.trans set

/-- The instance's reservation of the identity, if there is one, is as `good` says. -/
def Kept (instanceId id : Uuid) (good : Reservation → Prop) (s : Store) : Prop :=
  ∀ r, s.reservations.find id = some r → r.instanceId = instanceId → good r

/-- What no update of a fenced instance's reservation changes. -/
def Stays (instanceId id : Uuid) (good : Reservation → Prop) : Prop :=
  ∀ s old new, Revision s id old new → ¬ Unfenced s instanceId → old.instanceId = instanceId →
    good old → good new

theorem Revision.instance_eq (revision : Revision s id old new) : new.instanceId = old.instanceId := by
  have same := revision.same
  unfold Reservation.SameAttribution at same
  rw [same]

section
variable {instanceId id : Uuid} {good : Reservation → Prop} {s s' : Store}

theorem Kept.admission (kept : Kept instanceId id good s) (fenced : Fenced instanceId s)
    (admission : Admission s other row command)
    (reservations : s'.reservations = s.reservations.put other row) : Kept instanceId id good s' := by
  intro r found owned
  rw [reservations, Table.find_put] at found
  split at found
  · cases found
    exact absurd (owned ▸ admission.unfenced) fenced.closed
  · exact kept r found owned

theorem Kept.revision (kept : Kept instanceId id good s) (stays : Stays instanceId id good)
    (fenced : Fenced instanceId s) {other : Uuid} (revision : Revision s other old new)
    (reservations : s'.reservations = s.reservations.put other new) : Kept instanceId id good s' := by
  intro r found owned
  rw [reservations, Table.find_put] at found
  split at found
  · rename_i same
    subst same
    cases found
    have before := revision.instance_eq.symm.trans owned
    exact stays s old new revision fenced.closed before (kept old revision.found before)
  · exact kept r found owned

/-- Only an update of an unfenced instance's reservation, or an admission, could
change what is kept. -/
theorem Kept.step (kept : Kept instanceId id good s) (stays : Stays instanceId id good)
    (fenced : Fenced instanceId s) (step : Step s s') : Kept instanceId id good s' := by
  cases step with
  | reserve admission | promote admission => exact kept.admission fenced admission rfl
  | revise revision | release revision => exact kept.revision stays fenced revision rfl
  | expire =>
    intro r found owned
    rw [Table.find_remove] at found
    split at found
    · cases found
    · exact kept r found owned
  | _ => exact kept

theorem stays_unheld : Stays instanceId id fun r => r.state ≠ .held := by
  intro s old new revision _ _ unheld held
  have forward := revision.forward
  rw [held] at forward
  revert unheld forward
  cases old.state <;> simp [ReservationState.rank]

theorem stays_released : Stays instanceId id fun r => r.state = .released := by
  intro s old new revision _ _ released
  by_contra unreleased
  exact revision.live unreleased released

theorem stays_deadline (deadline : Time) : Stays instanceId id fun r => r.deadline = deadline := by
  intro s old new revision closed owned same
  rcases revision.deadline with kept | ⟨unfenced, -⟩
  · exact kept.trans same
  · exact absurd (owned ▸ unfenced) closed

theorem stays_absent : Stays instanceId id fun _ => False := fun _ _ _ _ _ _ there => there

end

/-! ## Intents of a fenced instance -/

/-- A start and its viewer belong to one instance. -/
def SameInstance (s : Store) : Prop :=
  ∀ id r i, s.reservations.find id = some r → s.intents.find id = some i → i.instanceId = r.instanceId

theorem Amendment.instance_eq (amendment : Amendment unreleased id old new) : new.instanceId = old.instanceId := by
  have same := amendment.same
  unfold StartIntent.SameAttribution at same
  rw [same]

theorem SameInstance.step (same : SameInstance s) (step : Step s s') : SameInstance s' := by
  unfold SameInstance at same ⊢
  cases step with
  | reserve | intend | forget => grind
  | promote _ _ _ _ _ _ _ amendment | amend _ amendment =>
    have unchanged := amendment.instance_eq
    grind
  | revise revision =>
    have found := revision.found
    have unchanged := revision.instance_eq
    grind
  | release revision _ settles =>
    have found := revision.found
    have unchanged := revision.instance_eq
    rcases settles with ⟨-, rfl⟩ | ⟨before, after, known, amendment, -, rfl⟩
    · grind
    · have attributed := amendment.instance_eq
      grind
  | expire _ _ _ _ _ account =>
    obtain ⟨-, rfl⟩ | ⟨-, -, -, rfl⟩ := account <;> grind
  | _ => exact same

/-- The instance's start of the identity, if there is one, is settled. -/
def Closed (instanceId id : Uuid) (s : Store) : Prop :=
  ∀ i, s.intents.find id = some i → i.instanceId = instanceId → i.settledAt.isSome = true

/-- A fenced instance, with what ties its starts to their viewers. -/
structure Fencing (instanceId : Uuid) (s : Store) : Prop where
  fenced : Fenced instanceId s
  settlements : Settlements s
  same : SameInstance s

theorem Fencing.step (fencing : Fencing instanceId s) (step : Step s s') : Fencing instanceId s' :=
  ⟨fencing.fenced.step step, fencing.settlements.step step, fencing.same.step step⟩

theorem Fencing.steps (fencing : Fencing instanceId s) (steps : Steps s s') : Fencing instanceId s' := by
  induction steps with
  | refl => exact fencing
  | tail _ last ih => exact ih.step last

section
variable {instanceId id : Uuid} {s s' : Store}

/-- An amendment of a settled start leaves it settled. -/
theorem Closed.amended (closed : Closed instanceId id s) (settlements : Settlements s)
    (found : s.intents.find other = some old) (amendment : Amendment unreleased other old new)
    (quiet : (∀ r, s.reservations.find other = some r → r.state = .released) → unreleased = false)
    (intents : s'.intents = s.intents.put other new) : Closed instanceId id s' := by
  intro i known owned
  rw [intents, Table.find_put] at known
  split at known
  · rename_i same
    subst same
    cases known
    have before := closed old found (amendment.instance_eq.symm.trans owned)
    obtain ⟨fenced, complete, released⟩ := (settlements id old found).mp before
    exact amendment.settled.mpr ⟨amendment.fenced fenced, amendment.complete complete, quiet released⟩
  · exact closed i known owned

theorem Closed.step (closed : Closed instanceId id s) (fencing : Fencing instanceId s)
    (step : Step s s') : Closed instanceId id s' := by
  obtain ⟨fenced, settlements, -⟩ := fencing
  cases step with
  | promote _ found _ _ _ _ _ amendment =>
    exact closed.amended settlements found amendment (fun _ => rfl) rfl
  | release _ _ settles =>
    rcases settles with ⟨-, rfl⟩ | ⟨before, after, known, amendment, -, rfl⟩
    · exact closed
    · exact closed.amended settlements known amendment (fun _ => rfl) rfl
  | expire _ _ _ _ _ account => obtain ⟨-, rfl⟩ | ⟨-, -, -, rfl⟩ := account <;> exact closed
  | @intend _ _ _ _ _ _ _ _ _ open_ =>
    intro i known owned
    rw [Table.find_put] at known
    split at known
    · cases known
      exact open_.resolve_left fun unfenced => fenced.closed (owned ▸ unfenced)
    · exact closed i known owned
  | amend found amendment =>
    exact closed.amended settlements found amendment unreleased_eq_false.mpr rfl
  | forget =>
    intro i known owned
    rw [Table.find_remove] at known
    split at known
    · cases known
    · exact closed i known owned
  | _ => exact closed

theorem Kept.steps (kept : Kept instanceId id good s)
    (stays : Stays instanceId id good) (fencing : Fencing instanceId s) (steps : Steps s s') :
    Kept instanceId id good s' := by
  induction steps with
  | refl => exact kept
  | tail before last ih => exact ih.step stays (fencing.steps before).fenced last

theorem Closed.steps (closed : Closed instanceId id s) (fencing : Fencing instanceId s)
    (steps : Steps s s') : Closed instanceId id s' := by
  induction steps with
  | refl => exact closed
  | tail before last ih => exact ih.step (fencing.steps before) last

end

/-! ## What the operator leaves -/

section
variable {instanceId : Uuid} {s s' : Store}

theorem retireWhere_unheld (fencing : Fencing instanceId s)
    (ran : Yields (retireWhere fun _ _ r => r.instanceId = instanceId) s u s') (id : Uuid) :
    Kept instanceId id (fun r => r.state ≠ .held) s' := by
  simp only [retireWhere, yields_get_bind] at ran
  by_cases chosen : id ∈ s.reservations.select fun _ r =>
      decide (r.state = .held) && decide (r.instanceId = instanceId)
  · refine forEach_establishes (Fencing instanceId)
      (fun id t => Kept instanceId id (fun r => r.state ≠ .held) t) ?_ ?_ ?_ ran fencing id chosen
    · exact fun x _ t _ t' visited fencing => fencing.steps (retireReservation_yields visited).1
    · exact fun x _ t _ t' visited _ r found _ => (retireReservation_yields visited).2.2.1 r found
    · exact fun x _ y t _ t' visited fencing kept =>
        kept.steps stays_unheld fencing (retireReservation_yields visited).1
  · have unheld : Kept instanceId id (fun r => r.state ≠ .held) s := by
      intro r found owned held
      exact chosen (Table.mem_select.mpr ⟨r, found, by simp [held, owned]⟩)
    exact unheld.steps stays_unheld fencing
      (Within.forEach _ (fun id _ => retireReservation_steps id) _ _ _ ran)

theorem fence_leaves {expected revision : Int} (settlements : Settlements s) (same : SameInstance s)
    (ran : Yields (fence instanceId expected) s revision s') :
    Fencing instanceId s' ∧ ∀ id, Kept instanceId id (fun r => r.state ≠ .held) s' := by
  obtain ⟨middle, acted, committed⟩ := transaction_yields ran
  simp only [yields_clock_bind, yields_get_bind] at acted
  cases found : s.tick.instances.find instanceId with
  | none => simp [found] at acted
  | some row =>
    simp only [found, updateInstance, yields_expect_bind, yields_modify_bind, yields_get_bind] at acted
    obtain ⟨_, fencedOff, fencing, rest⟩ := yields_bind.mp acted.2
    obtain ⟨_, retired, retiring, rest⟩ := yields_bind.mp rest
    obtain ⟨_, recorded, recording, last⟩ := yields_bind.mp rest
    obtain ⟨-, rfl⟩ := yields_pure.mp last
    have start : Fencing instanceId { s.tick with
        instances := s.tick.instances.put instanceId
          { row with fenced := true, revision := row.revision + 1, fencedAt := some s.tick.clock } } :=
      ⟨⟨_, Table.find_put_self .., rfl⟩, settlements, same⟩
    have before := start.steps (Within.forEach _ (fun id _ => fenceIntent_steps id) _ _ _ fencing)
    have after := before.steps (retireWhere_steps _ _ _ _ retiring)
    have recordings := recordOperator_steps _ _ _ _ recording
    have kept := after.steps recordings
    have unheld : ∀ id, Kept instanceId id (fun r => r.state ≠ .held) middle :=
      fun id => (retireWhere_unheld before retiring id).steps stays_unheld after recordings
    rw [committed.cleared]
    exact ⟨⟨kept.fenced, kept.settlements, kept.same⟩, unheld⟩

/-- The release of a viewer of a reconciled instance. -/
theorem releaseReservation_released {u : Unit} (ran : Yields (do
    let now ← clockTimestamp
    updateReservation id fun r => { r with state := .released, releasedAt := some now }) s u s')
    (retired : ∀ v, s.controls.find id = some v → v.state = .retiring) :
    Kept instanceId id (fun r => r.state = .released) s' := by
  rw [yields_clock_bind] at ran
  intro r found _
  obtain ⟨-, ⟨absent, rfl⟩ | ⟨old, new, updated⟩⟩ :=
    updateReservation_yields ran (fun _ _ => .inl rfl) fun _ _ _ => retired
  · cases absent.symm.trans found
  · rw [updated.written, Table.find_put_self] at found
    cases found
    exact updated.state

/-- The completion of a start whose viewers are released. -/
theorem completeIntent_closed (fencing : Fencing instanceId s)
    (released : Kept instanceId id (fun r => r.state = .released) s) (ran : Yields (updateIntent id fun i =>
      { i with admissionFenced := true, preparationComplete := true }) s u s') :
    Closed instanceId id s' := by
  obtain ⟨absent, rfl⟩ | ⟨old, new, clock, ticks, -, found, amendment, -, shape, rfl⟩ := updateIntent_yields ran
  · intro i known _
    cases absent.symm.trans known
  · intro i known owned
    cases (Table.find_put_self ..).symm.trans known
    have quiet : s.unreleased id = false := unreleased_eq_false.mpr fun r reserved =>
      released r reserved ((fencing.same id r old reserved found).symm.trans
        (amendment.instance_eq.symm.trans owned))
    exact amendment.settled.mpr ⟨by rw [shape], by rw [shape], quiet⟩

theorem releaseAll_released {u : Unit} {viewers : List Uuid} (fencing : Fencing instanceId s)
    (others : ∀ id, id ∉ viewers → Kept instanceId id (fun r => r.state = .released) s)
    (retired : ∀ id ∈ viewers, ∀ v, s.controls.find id = some v → v.state = .retiring)
    (ran : Yields (forEach (fun id => do
      let now ← clockTimestamp
      updateReservation id fun r => { r with state := .released, releasedAt := some now }) viewers)
      s u s') (id : Uuid) : Kept instanceId id (fun r => r.state = .released) s' := by
  by_cases chosen : id ∈ viewers
  · refine forEach_establishes (fun t => Fencing instanceId t ∧ t.controls = s.controls)
      (fun id t => Kept instanceId id (fun r => r.state = .released) t) ?_ ?_ ?_ ran ⟨fencing, rfl⟩
      id chosen
    · intro x member t _ t' visited ⟨fencing, same⟩
      obtain ⟨steps, kept⟩ := releaseReservation_yields visited (same ▸ retired x member)
      exact ⟨fencing.steps steps, kept.trans same⟩
    · exact fun x member t _ t' visited ⟨_, same⟩ =>
        releaseReservation_released visited (same ▸ retired x member)
    · exact fun x member y t _ t' visited ⟨fencing, same⟩ kept =>
        kept.steps stays_released fencing
          (releaseReservation_yields visited (same ▸ retired x member)).1
  · exact (others id chosen).steps stays_released fencing (releaseReservations_steps ran retired)

/-- Completing the instance's starts settles them once its viewers are released. -/
theorem completeAll_closed (fencing : Fencing instanceId s)
    (free : ∀ id, Kept instanceId id (fun r => r.state = .released) s)
    (ran : Yields (forEach (fun id => updateIntent id fun i =>
        { i with admissionFenced := true, preparationComplete := true })
      (s.intents.select fun _ i => i.instanceId = instanceId)) s u s') (id : Uuid) :
    Closed instanceId id s' := by
  by_cases chosen : id ∈ s.intents.select fun _ i => decide (i.instanceId = instanceId)
  · refine forEach_establishes (fun t => Fencing instanceId t ∧
        ∀ id, Kept instanceId id (fun r => r.state = .released) t)
      (fun id t => Closed instanceId id t) ?_ ?_ ?_ ran ⟨fencing, free⟩ id chosen
    · intro x _ t _ t' visited ⟨fencing, free⟩
      have steps := completeIntent_steps x _ _ _ visited
      exact ⟨fencing.steps steps, fun id => (free id).steps stays_released fencing steps⟩
    · exact fun x _ t _ t' visited ⟨fencing, free⟩ => completeIntent_closed fencing (free x) visited
    · exact fun x _ y t _ t' visited ⟨fencing, _⟩ closed =>
        closed.steps fencing (completeIntent_steps x _ _ _ visited)
  · have before : Closed instanceId id s := by
      intro i known owned
      exact absurd (Table.mem_select.mpr ⟨i, known, by simp [owned]⟩) chosen
    exact before.steps fencing (Within.forEach _ (fun id _ => completeIntent_steps id) _ _ _ ran)

/-- After a reconciliation the instance's viewers are released and its starts
settled. -/
theorem reconcile_leaves {revision : Int} {resourcesGone : Bool} (settlements : Settlements s) (same : SameInstance s)
    (ran : Yields (reconcile instanceId revision resourcesGone) s count s') :
    Fencing instanceId s' ∧ (∀ id, Kept instanceId id (fun r => r.state = .released) s') ∧
      ∀ id, Closed instanceId id s' := by
  simp only [reconcile, yields_expect_bind] at ran
  obtain ⟨middle, acted, committed⟩ := transaction_yields ran.2
  simp only [yields_get_bind] at acted
  cases found : s.instances.find instanceId with
  | none => simp [found] at acted
  | some row =>
    simp only [found, yields_expect_bind, yields_get_bind] at acted
    obtain ⟨agreed, acted⟩ := acted
    simp only [Bool.and_eq_true] at agreed
    obtain ⟨_, completed, completing, rest⟩ := yields_bind.mp acted
    obtain ⟨_, commanded, commanding, rest⟩ := yields_bind.mp rest
    obtain ⟨_, released, releasing, rest⟩ := yields_bind.mp rest
    rw [yields_get_bind] at rest
    obtain ⟨_, settled, settling, rest⟩ := yields_bind.mp rest
    simp only [updateInstance, yields_clock_bind, yields_modify_bind] at rest
    obtain ⟨_, recorded, recording, last⟩ := yields_bind.mp rest
    obtain ⟨-, rfl⟩ := yields_pure.mp last
    have start : Fencing instanceId s := ⟨⟨row, found, agreed.1⟩, settlements, same⟩
    have cleaned : Steps s commanded :=
      (Within.forEach _ (fun id _ => playbackVodCompleteOutputs_steps id) _ _ _ completing).trans
        (Within.forEach _ (fun id _ => releaseCommand_steps id) _ _ _ commanding)
    have fencing := start.steps cleaned
    have retired := completeViewers_retire completing commanding
    have releases : Steps commanded released := releaseReservations_steps releasing retired
    have free : ∀ id, Kept instanceId id (fun r => r.state = .released) released := by
      refine releaseAll_released fencing (fun id unchosen => ?_) retired releasing
      have before : Kept instanceId id (fun r => r.state = .released) s := by
        intro r known owned
        by_contra unreleased
        exact unchosen (Table.mem_select.mpr ⟨r, known, by simp [owned, unreleased]⟩)
      exact before.steps stays_released start cleaned
    have ready := fencing.steps releases
    have settles : Steps released settled :=
      Within.forEach _ (fun id _ => completeIntent_steps id) _ _ _ settling
    have closed := completeAll_closed ready free settling
    have later := ready.steps settles
    have ended : Steps settled middle := by
      obtain ⟨old, known, -⟩ := ((ticked_tick settled).steps.registered later.fenced.choose_spec.1)
      refine (ticked_tick settled).steps.trans (.head (.operate known fun _ => ?_)
        (recordOperator_steps _ _ _ _ recording))
      exact agreed.1
    have last := later.steps ended
    have free' : ∀ id, Kept instanceId id (fun r => r.state = .released) middle := fun id =>
      ((free id).steps stays_released ready settles).steps stays_released later ended
    have closed' : ∀ id, Closed instanceId id middle := fun id => (closed id).steps later ended
    rw [committed.cleared]
    exact ⟨⟨last.fenced, last.settlements, last.same⟩, free', closed'⟩

end

/-! ## Runs -/

theorem sameInstance_invariant : Invariant SameInstance :=
  .of_steps (fun _ _ _ step same => same.step step) fun _ _ _ same => same

theorem fencing_invariant (instanceId : Uuid) : Invariant (Fencing instanceId) :=
  .of_steps (fun _ _ _ step fencing => fencing.step step) fun _ _ _ fencing =>
    ⟨fencing.fenced, fencing.settlements, fencing.same⟩

theorem kept_invariant {good : Reservation → Prop} (stays : Stays instanceId id good) :
    Invariant fun s => Fencing instanceId s ∧ Kept instanceId id good s :=
  .of_steps (fun _ _ _ step ⟨fencing, kept⟩ => ⟨fencing.step step, kept.step stays fencing.fenced step⟩)
    fun _ _ _ ⟨fencing, kept⟩ => ⟨⟨fencing.fenced, fencing.settlements, fencing.same⟩, kept⟩

theorem closed_invariant (instanceId id : Uuid) :
    Invariant fun s => Fencing instanceId s ∧ Closed instanceId id s :=
  .of_steps (fun _ _ _ step ⟨fencing, closed⟩ => ⟨fencing.step step, closed.step fencing step⟩)
    fun _ _ _ ⟨fencing, closed⟩ => ⟨⟨fencing.fenced, fencing.settlements, fencing.same⟩, closed⟩

variable {digest : ConfigurationResponse → Option String}

theorem Reachable.sameInstance (reachable : Reachable digest sys) : SameInstance sys.store :=
  reachable.invariant sameInstance_invariant fun now id r i found => by simp [Store.migrated] at found

theorem perform_done {α : Type} {tx : Tx α}
    (done : (sys.perform tx fun _ => .done).1 = .done) :
    ∃ a, Yields tx sys.store a (sys.perform tx fun _ => .done).2.store := by
  rcases attempt_cases sys tx (fun _ => .done) fun _ works => works with
    ⟨a, s', ran, eq⟩ | ⟨failure, -, eq⟩
  · rw [System.perform, eq]
    exact ⟨a, ran⟩
  · rw [System.perform, eq] at done
    cases done

/-- No move gives a fenced instance a reservation or a later deadline. -/
theorem Fencing.unmoved (fencing : Fencing instanceId sys.store) (sound : Sound sys) (move : Move) {r : Reservation}
    (found : (next digest sys move).store.reservations.find id = some r) (owned : r.instanceId = instanceId) :
    ∃ old, sys.store.reservations.find id = some old ∧ old.instanceId = instanceId ∧
      r.deadline = old.deadline := by
  by_cases there : ∃ old, sys.store.reservations.find id = some old ∧ old.instanceId = instanceId
  · obtain ⟨old, known, owner⟩ := there
    have kept : Kept instanceId id (fun r => r.deadline = old.deadline) sys.store := by
      intro q same _
      cases known.symm.trans same
      rfl
    exact ⟨old, known, owner,
      ((kept_invariant (stays_deadline old.deadline)).next sound ⟨fencing, kept⟩ move).2 r found owned⟩
  · have absent : Kept instanceId id (fun _ => False) sys.store :=
      fun q same owner => there ⟨q, same, owner⟩
    exact (((kept_invariant stays_absent).next sound ⟨fencing, absent⟩ move).2 r found owned).elim

/-- After a fence no move of a run leaves a viewer of the instance held, gives it a
reservation or moves a deadline; after a reconciliation its viewers stay
released, with their outputs completed and operations ended, and its starts
settled. -/
theorem operator_settles_instance (digest : ConfigurationResponse → Option String) {sys : System}
    (reachable : Reachable digest sys) (instanceId : Uuid) :
    (∀ elapsed expected, (step digest sys ⟨elapsed, .fence instanceId expected⟩).1 = .done →
      ∀ moves,
      let later := run digest (next digest sys ⟨elapsed, .fence instanceId expected⟩) moves
      (∀ id r, later.store.reservations.find id = some r → r.instanceId = instanceId →
        r.state ≠ .held) ∧
      ∀ move id r, (next digest later move).store.reservations.find id = some r →
        r.instanceId = instanceId → ∃ old, later.store.reservations.find id = some old ∧
          old.instanceId = instanceId ∧ r.deadline = old.deadline) ∧
    ∀ elapsed revision gone,
      (step digest sys ⟨elapsed, .reconcile instanceId revision gone⟩).1 = .done →
      ∀ moves,
      let later := run digest (next digest sys ⟨elapsed, .reconcile instanceId revision gone⟩) moves
      (∀ id r, later.store.reservations.find id = some r → r.instanceId = instanceId →
        r.state = .released ∧
        (∀ output o, later.store.outputs.find output = some o → o.reservationId = id →
          o.resourcesCompleted = true) ∧
        ∀ operation p, later.store.operations.find operation = some p → p.reservationId = id →
          p.state.terminal = true) ∧
      ∀ id i, later.store.intents.find id = some i → i.instanceId = instanceId →
        i.settledAt.isSome = true := by
  have settlements := reachable.settlements
  have same := reachable.sameInstance
  refine ⟨?_, ?_⟩
  · intro elapsed expected done moves later
    obtain ⟨revision, ran⟩ := perform_done done
    obtain ⟨fencing, unheld⟩ := fence_leaves (s := (sys.arrive elapsed).store) settlements same ran
    have sound := (reachable.run [⟨elapsed, .fence instanceId expected⟩]).sound
    refine ⟨fun id r found owned => ?_, fun move id r found owned => ?_⟩
    · exact ((kept_invariant stays_unheld).run sound ⟨fencing, unheld id⟩ moves).2 r found owned
    · have fenced : Fencing instanceId later.store :=
        (fencing_invariant instanceId).run sound fencing moves
      exact fenced.unmoved (sound.run moves) move found owned
  · intro elapsed revision gone done moves later
    obtain ⟨count, ran⟩ := perform_done done
    obtain ⟨fencing, released, closed⟩ :=
      reconcile_leaves (s := (sys.arrive elapsed).store) settlements same ran
    have sound := (reachable.run [⟨elapsed, .reconcile instanceId revision gone⟩]).sound
    have served : Served later.store := (sound.run moves).settled.served
    refine ⟨fun id r found owned => ?_, fun id i found owned => ?_⟩
    · have free := ((kept_invariant stays_released).run sound ⟨fencing, released id⟩ moves).2 r found owned
      exact ⟨free, served.outputs id r found free, served.operations id r found free⟩
    · exact ((closed_invariant instanceId id).run sound ⟨fencing, closed id⟩ moves).2 i found owned

/-- The playing viewer's instance is fenced, then reconciled. -/
theorem fenced_host_reconciled :
    (∀ moves id r, (run Sample.digest (next Sample.digest (run Sample.digest (.deployed Sample.start)
        Sample.playing) ⟨[], .fence Sample.host 1⟩) moves).store.reservations.find id = some r →
      r.instanceId = Sample.host → r.state ≠ .held) ∧
    ∀ moves id r, (run Sample.digest (next Sample.digest (run Sample.digest (.deployed Sample.start)
        (Sample.playing ++ [⟨[], .fence Sample.host 1⟩])) ⟨[], .reconcile Sample.host 2 true⟩)
          moves).store.reservations.find id = some r →
      r.instanceId = Sample.host → r.state = .released := by
  have fenced : (step Sample.digest (run Sample.digest (.deployed Sample.start) Sample.playing)
      ⟨[], .fence Sample.host 1⟩).1 = .done := by decide +kernel
  have reconciled : (step Sample.digest (run Sample.digest (.deployed Sample.start)
      (Sample.playing ++ [⟨[], .fence Sample.host 1⟩])) ⟨[], .reconcile Sample.host 2 true⟩).1 =
        .done := by decide +kernel
  refine ⟨fun moves => ?_, fun moves id r found owned => ?_⟩
  · exact ((operator_settles_instance Sample.digest ⟨_, _, rfl⟩ Sample.host).1 _ _ fenced moves).1
  · exact (((operator_settles_instance Sample.digest ⟨_, _, rfl⟩ Sample.host).2 _ _ _ reconciled
      moves).1 id r found owned).1

end Duskcue.Playback
