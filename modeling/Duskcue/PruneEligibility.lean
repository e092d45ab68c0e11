import Duskcue.SystemSteps

/-! What a row that may be pruned looks like. A prune time lies a day after the time it
is stamped from, and no identity is stamped more than two minutes before the time it
carries; an output belongs to the operation that names it, and is completed once
the operation is cleaned up; and a released viewer's control retires. Each is
an invariant of the store over every run, and the delete guards ask for no more. -/
namespace Duskcue.Playback
open Transaction

variable {id : Uuid}

/-! ## Times -/

/-- A released reservation with the stamps its prune time comes from. -/
def Reservation.Stamped (id : Uuid) (r : Reservation) : Prop :=
  r.state = .released → ∃ time, r.releasedAt = some time ∧ r.pruneAfter = some (pruneTime id time) ∧
    Recent time id

/-- An operation with the stamps its prune time comes from. -/
structure Operation.Stamped (id : Uuid) (p : Operation) : Prop where
  ended : ∀ time, p.terminalAt = some time → Recent time id
  prunes : ∀ time, p.pruneAfter = some time → ∃ ended, p.terminalAt = some ended ∧
    ended + 24 * hour ≤ time

/-- Every identity is recent, and every stamp was made after it. -/
structure Timed (s : Store) : Prop where
  reserved : ∀ id r, s.reservations.find id = some r → Recent s.clock id
  intended : ∀ id i, s.intents.find id = some i → Recent s.clock id
  operated : ∀ id p, s.operations.find id = some p → Recent s.clock id
  reservations : ∀ id r, s.reservations.find id = some r → r.Stamped id
  intents : ∀ id i, s.intents.find id = some i → ∀ time, i.settledAt = some time →
    i.pruneAfter = some (pruneTime id time) ∧ Recent time id
  operations : ∀ id p, s.operations.find id = some p → p.Stamped id

section
variable {s s' : Store}

theorem Reservation.Stamped.of_held {r : Reservation} (held : r.state = .held) : r.Stamped id := by
  intro released
  cases held.symm.trans released

theorem Revision.stamps (revision : Revision s id old new)
    (before : old.Stamped id) (recent : Recent s.clock id) : new.Stamped id := by
  intro released
  have known : old.state = .released → old.releasedAt.isSome = true := by
    intro already
    obtain ⟨time, at_, -⟩ := before already
    simp [at_]
  obtain ⟨time, at_, prunes, since⟩ := revision.stamped released known
  refine ⟨time, at_, prunes, ?_⟩
  rcases since with ⟨already, kept⟩ | later
  · obtain ⟨earlier, stood, -, recent⟩ := before already
    cases stood.symm.trans kept
    exact recent
  · exact recent.mono later

theorem StartIntent.Stamped.recent (stamped : StartIntent.Stamped s.clock id old new)
    (before : ∀ time, old.settledAt = some time → Recent time id) (recent : Recent s.clock id)
    (time : Time) (settled : new.settledAt = some time) :
    new.pruneAfter = some (pruneTime id time) ∧ Recent time id := by
  obtain ⟨prunes, since⟩ := stamped time settled
  exact ⟨prunes, since.elim (before time) recent.mono⟩

theorem OperationInsertion.unended {control : Control}
    (insertion : OperationInsertion s id row control) : row.terminalAt = none := by
  have checks := insertion.checks
  simp only [Operation.checks, insertion.accepted, OperationState.terminal, Bool.and_eq_true,
    beq_iff_eq] at checks
  simpa using checks.1.2

theorem OperationInsertion.unpruned {control : Control}
    (insertion : OperationInsertion s id row control) : row.pruneAfter = none := by
  have checks := insertion.checks
  simp only [Operation.checks, insertion.unended, Bool.and_eq_true, beq_iff_eq] at checks
  simpa using checks.2

/-- What the clock of a step leaves true. -/
theorem Timed.later (timed : Timed s) (ticks : List Nat) (later : s.clock ≤ clock) :
    Timed (s.moved clock ticks) :=
  { timed with
    reserved := fun id r found => (timed.reserved id r found).mono later
    intended := fun id i found => (timed.intended id i found).mono later
    operated := fun id p found => (timed.operated id p found).mono later }

theorem Timed.step (timed : Timed s) (step : Step s s') : Timed s' := by
  obtain ⟨reserved, intended, operated, reservations, intents, operations⟩ := timed
  cases step with
  | tick ticks later => exact Timed.later ⟨reserved, intended, operated, reservations, intents, operations⟩ ticks later
  | reserve admission _ _ _ _ recent =>
    exact ⟨Table.forall_put recent reserved, intended, operated,
      Table.forall_put (.of_held admission.held) reservations, intents, operations⟩
  | promote admission found _ _ _ still _ amendment =>
    have recent := intended _ _ found
    refine ⟨Table.forall_put recent reserved, Table.forall_put recent intended, operated,
      Table.forall_put (.of_held admission.held) reservations, Table.forall_put ?_ intents, operations⟩
    intro time settled
    have fenced := (amendment.settled.mp (by simp [settled])).1
    cases still.symm.trans fenced
  | revise revision =>
    have recent := reserved _ _ revision.found
    exact ⟨Table.forall_put recent reserved, intended, operated,
      Table.forall_put (revision.stamps (reservations _ _ revision.found) recent) reservations, intents,
      operations⟩
  | release revision _ settles stamped =>
    have recent := reserved _ _ revision.found
    have row := revision.stamps (reservations _ _ revision.found) recent
    rcases settles with ⟨-, rfl⟩ | ⟨before, after, found, -, -, rfl⟩
    · exact ⟨Table.forall_put recent reserved, intended, operated, Table.forall_put row reservations, intents,
        operations⟩
    · refine ⟨Table.forall_put recent reserved, Table.forall_put recent intended, operated,
        Table.forall_put row reservations, Table.forall_put ?_ intents, operations⟩
      exact (stamped before after found (Table.find_put_self ..)).recent
        (fun time settled => (intents _ _ found time settled).2) recent
  | expire _ found _ _ _ account =>
    obtain ⟨-, rfl⟩ | ⟨-, -, -, rfl⟩ := account <;>
    exact ⟨fun id r found => reserved id r (Table.find_of_remove found), intended, operated,
      fun id r found => reservations id r (Table.find_of_remove found), intents, operations⟩
  | intend _ _ _ _ _ settled _ _ recent stamped =>
    refine ⟨reserved, Table.forall_put recent intended, operated, reservations,
      Table.forall_put (fun time settled => ?_) intents, operations⟩
    obtain ⟨prunes, since⟩ := stamped time settled
    exact ⟨prunes, recent.mono since⟩
  | amend found _ _ stamped =>
    have recent := intended _ _ found
    exact ⟨reserved, Table.forall_put recent intended, operated, reservations,
      Table.forall_put (stamped.recent (fun time settled => (intents _ _ found time settled).2) recent) intents,
      operations⟩
  | forget =>
    exact ⟨reserved, fun id i found => intended id i (Table.find_of_remove found), operated, reservations,
      fun id i found => intents id i (Table.find_of_remove found), operations⟩
  | insertOperation insertion =>
    refine ⟨reserved, intended, Table.forall_put insertion.recent operated, reservations, intents,
      Table.forall_put ⟨fun time ended => ?_, fun time prunes => ?_⟩ operations⟩
    · cases insertion.unended.symm.trans ended
    · cases insertion.unpruned.symm.trans prunes
  | updateOperation update =>
    have recent := operated _ _ update.found
    refine ⟨reserved, intended, Table.forall_put recent operated, reservations, intents,
      Table.forall_put ⟨fun time ended => ?_, update.prunes⟩ operations⟩
    exact (update.stamped time ended).elim ((operations _ _ update.found).ended time) recent.mono
  | deleteOperation =>
    exact ⟨reserved, intended, fun id p found => operated id p (Table.find_of_remove found), reservations,
      intents, fun id p found => operations id p (Table.find_of_remove found)⟩
  | _ => exact ⟨reserved, intended, operated, reservations, intents, operations⟩

end

/-! ## Outputs and their operations -/

/-- An output is the candidate of the operation it is of, and is completed once that
operation is cleaned up. -/
structure Linked (s : Store) : Prop where
  candidate : ∀ id o operation, s.outputs.find id = some o → o.operationId = some operation → ∃ p,
    s.operations.find operation = some p ∧ p.reservationId = o.reservationId ∧ p.candidateOutput = id
  completed : ∀ id p, s.operations.find id = some p → p.cleanupAt.isSome = true → ∀ output o,
    s.outputs.find output = some o → o.operationId = some id → o.resourcesCompleted = true

section
variable {s s' : Store}

theorem OutputUpdate.operation_eq (update : OutputUpdate s id old new) :
    new.operationId = old.operationId ∧ new.reservationId = old.reservationId := by
  have same := update.same
  unfold OutputRow.SameAttribution at same
  rw [same]
  exact ⟨rfl, rfl⟩

theorem OperationUpdate.candidate_eq (update : OperationUpdate s id old new) :
    new.reservationId = old.reservationId ∧ new.candidateOutput = old.candidateOutput := by
  have same := update.same
  unfold Operation.SameAttribution at same
  rw [same]
  exact ⟨rfl, rfl⟩

theorem Linked.fewer (linked : Linked s) (operations : s'.operations = s.operations)
    (outputs : ∀ id o, s'.outputs.find id = some o → s.outputs.find id = some o) : Linked s' where
  candidate := fun id o operation found of =>
    operations ▸ linked.candidate id o operation (outputs id o found) of
  completed := fun id p found cleaned output o known =>
    linked.completed id p (operations ▸ found) cleaned output o (outputs output o known)

theorem Linked.step (linked : Linked s) (step : Step s s') : Linked s' := by
  obtain ⟨candidate, completed⟩ := linked
  cases step with
  | expire _ found _ _ _ account =>
    refine Linked.fewer ⟨candidate, completed⟩ ?_ fun id o found => (Table.find_discard.mp found).1
    obtain ⟨-, rfl⟩ | ⟨-, -, -, rfl⟩ := account <;> rfl
  | @insertOutput _ _ insertion =>
    refine ⟨fun output o operation found of => ?_, fun operation p known cleaned => ?_⟩
    · refine Table.forall_put (P := fun output o => o.operationId = some operation → ∃ p,
        s.operations.find operation = some p ∧ p.reservationId = o.reservationId ∧
          p.candidateOutput = output) ?_ (fun output o found => candidate output o operation found)
        output o found of
      intro of
      obtain ⟨p, known, owned, named, -⟩ := insertion.linked operation of
      exact ⟨p, known, owned, named⟩
    · refine Table.forall_put (fun of => ?_) (completed operation p known cleaned)
      obtain ⟨q, same, -, -, uncleaned⟩ := insertion.linked operation of
      cases known.symm.trans same
      simp [uncleaned] at cleaned
  | @updateOutput id old _ update =>
    obtain ⟨of, owned⟩ := update.operation_eq
    refine ⟨fun output o operation found => ?_, fun operation p known cleaned => ?_⟩
    · refine Table.forall_put (P := fun output o => o.operationId = some operation → ∃ p,
        s.operations.find operation = some p ∧ p.reservationId = o.reservationId ∧
          p.candidateOutput = output) ?_ (fun output o found => candidate output o operation found)
        output o found
      rw [of, owned]
      exact candidate id old operation update.found
    · refine Table.forall_put (fun linked => ?_) (completed operation p known cleaned)
      exact update.completed (completed operation p known cleaned id old update.found (of ▸ linked))
  | deleteOutput =>
    exact Linked.fewer ⟨candidate, completed⟩ rfl fun id o found => Table.find_of_remove found
  | @insertOperation _ _ _ _ insertion =>
    have absent := insertion.absent
    refine ⟨fun output o operation found of => ?_, Table.forall_put (fun cleaned => ?_) completed⟩
    · obtain ⟨p, known, rest⟩ := candidate output o operation found of
      refine ⟨p, (Table.find_put_ne ?_).trans known, rest⟩
      rintro rfl
      cases absent.symm.trans known
    · simp [insertion.uncleaned] at cleaned
  | @updateOperation id old new update =>
    obtain ⟨owned, named⟩ := update.candidate_eq
    refine ⟨fun output o operation found of => ?_, Table.forall_put update.cleaned completed⟩
    obtain ⟨p, known, attributed, pointed⟩ := candidate output o operation found of
    by_cases same : operation = id
    · subst same
      cases update.found.symm.trans known
      exact ⟨new, Table.find_put_self .., owned.trans attributed, named.trans pointed⟩
    · exact ⟨p, (Table.find_put_ne same).trans known, attributed, pointed⟩
  | @deleteOperation id _ _ deletion =>
    refine ⟨fun output o operation found of => ?_, fun operation p known =>
      completed operation p (Table.find_of_remove known)⟩
    obtain ⟨p, known, rest⟩ := candidate output o operation found of
    have other : operation ≠ id := by
      rintro rfl
      exact deletion.unlinked output o found of
    exact ⟨p, by rw [Table.find_remove, if_neg other, known], rest⟩
  | _ => exact ⟨candidate, completed⟩

/-! ## Released viewers -/

/-- The control of a released viewer retires. -/
def Retired (s : Store) : Prop :=
  ∀ id r v, s.reservations.find id = some r → s.controls.find id = some v → r.state = .released →
    v.state = .retiring

theorem Retired.write (retired : Retired s) {new : Control}
    (own : ∀ r, s.reservations.find id = some r → r.state = .released → new.state = .retiring)
    (reservations : s'.reservations = s.reservations) (controls : s'.controls = s.controls.put id new) :
    Retired s' := by
  intro other r v reserved controlled released
  rw [reservations] at reserved
  rw [controls, Table.find_put] at controlled
  split at controlled
  · rename_i same
    cases controlled
    exact own r (same ▸ reserved) released
  · exact retired other r v reserved controlled released

/-- One reservation is written. -/
theorem Retired.admit (retired : Retired s) {row : Reservation}
    (own : row.state = .released → ∀ v, s.controls.find id = some v → v.state = .retiring)
    (reservations : s'.reservations = s.reservations.put id row) (controls : s'.controls = s.controls) :
    Retired s' := by
  intro other r v reserved controlled released
  rw [controls] at controlled
  rw [reservations, Table.find_put] at reserved
  split at reserved
  · rename_i same
    cases reserved
    exact own released v (same ▸ controlled)
  · exact retired other r v reserved controlled released

theorem Retired.step (retired : Retired s) (step : Step s s') : Retired s' := by
  cases step with
  | reserve admission | promote admission =>
    refine retired.admit (fun released => ?_) rfl rfl
    cases admission.held.symm.trans released
  | revise _ unreleased => exact retired.admit (fun released => absurd released unreleased) rfl rfl
  | release _ _ _ _ retires => exact retired.admit (fun _ => retires) rfl rfl
  | expire =>
    intro other r v reserved controlled
    exact retired other r v (Table.find_of_remove reserved) (Table.find_of_remove controlled)
  | insertControl _ _ _ _ unreleased =>
    exact retired.write (fun r found released => absurd released (unreleased r found)) rfl rfl
  | updateControl update =>
    exact retired.write (fun r found released =>
      update.retiring (retired _ r _ found update.found released)) rfl rfl
  | insertOperation insertion =>
    refine retired.write ?_ rfl rfl
    exact fun r found released => (retired _ r _ found insertion.viewer released :)
  | deleteOperation deletion =>
    refine retired.write ?_ rfl rfl
    exact fun r found released => (retired _ r _ found deletion.viewer released :)
  | _ => exact retired

end

/-! ## Every run -/

/-- What the delete guards rest on. -/
structure Prunable (s : Store) : Prop where
  timed : Timed s
  linked : Linked s
  retired : Retired s

theorem Prunable.step {s s' : Store} (prunable : Prunable s) (step : Step s s') : Prunable s' :=
  ⟨prunable.timed.step step, prunable.linked.step step, prunable.retired.step step⟩

theorem prunable_invariant : Invariant Prunable :=
  .of_steps (fun _ _ _ step prunable => prunable.step step) fun _ _ _ prunable =>
    ⟨⟨prunable.timed.reserved, prunable.timed.intended, prunable.timed.operated,
        prunable.timed.reservations, prunable.timed.intents, prunable.timed.operations⟩,
      ⟨prunable.linked.candidate, prunable.linked.completed⟩, prunable.retired⟩

theorem Reachable.prunable (reachable : Reachable digest sys) : Prunable sys.store := by
  refine reachable.invariant prunable_invariant fun now => ⟨?_, ?_, ?_⟩
  · constructor <;> simp [Store.migrated]
  · constructor <;> simp [Store.migrated]
  · simp [Retired, Store.migrated]

end Duskcue.Playback
