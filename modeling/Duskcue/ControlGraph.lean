import Duskcue.SystemSteps

/-! The graph of controls, operations and outputs between transactions. The deferred
triggers judge a row when it is written, not when a row it refers to is, so the
agreement of the three tables is an invariant of the writes. -/
namespace Duskcue.Playback
open Transaction

/-- What controls, operations and outputs say about each other. -/
structure Agrees (s : Store) : Prop where
  alone : ∀ a b p q, s.operations.find a = some p → s.operations.find b = some q →
    p.reservationId = q.reservationId → p.state.terminal = false → q.state.terminal = false → a = b
  pending : ∀ viewer v, s.controls.find viewer = some v → ∀ operation,
    v.pendingOperation = some operation ↔ ∃ p, s.operations.find operation = some p ∧
      p.reservationId = viewer ∧ p.state.terminal = false
  controlled : ∀ operation p, s.operations.find operation = some p →
    (s.controls.find p.reservationId).isSome = true
  completed : ∀ operation p, s.operations.find operation = some p → p.state = .completed →
    ∃ o, s.outputs.find p.candidateOutput = some o ∧ o.reservationId = p.reservationId ∧
      o.publishedAt.isSome = true ∧ o.result.isSome = true ∧ p.result = o.result
  released : ∀ viewer r, s.reservations.find viewer = some r → r.state = .released →
    (∀ output o, s.outputs.find output = some o → o.reservationId = viewer →
      o.resourcesCompleted = true) ∧
    ∀ operation p, s.operations.find operation = some p → p.reservationId = viewer →
      p.state.terminal = true

/-- The output a ready control points at is published and served. -/
def Serving (o : OutputRow) : Prop :=
  o.publishedAt.isSome = true ∧ o.state = .ready ∧ o.resourcesCompleted = false

/-- The output has been published and cleaned up since. -/
def Cleaned (o : OutputRow) : Prop :=
  o.publishedAt.isSome = true ∧ o.state = .complete ∧ o.resourcesCompleted = true

/-- A ready control has a current output of its viewer that is as `holds` says. -/
def ReadyOutputs (holds : OutputRow → Prop) (s : Store) : Prop :=
  ∀ viewer v, s.controls.find viewer = some v → v.state = .ready → ∃ output o,
    v.currentOutput = some output ∧ s.outputs.find output = some o ∧ o.reservationId = viewer ∧ holds o

theorem Settled.pending_iff (settled : Settled s)
    (found : s.controls.find viewer = some v) : v.pendingOperation = some operation ↔
      ∃ p, s.operations.find operation = some p ∧ p.reservationId = viewer ∧
        p.state.terminal = false := by
  constructor
  · exact settled.named found
  · rintro ⟨p, known, rfl, unended⟩
    rcases settled.pending.owned operation p known unended with queued | ⟨w, control, pointing⟩
    · simp [settled.idle] at queued
    · cases found.symm.trans control
      exact pointing

theorem Settled.completed (settled : Settled s)
    (found : s.operations.find operation = some p) (completed : p.state = .completed) :
    ∃ o, s.outputs.find p.candidateOutput = some o ∧ o.reservationId = p.reservationId ∧
      o.publishedAt.isSome = true ∧ o.result.isSome = true ∧ p.result = o.result := by
  obtain ⟨o, candidate, owned⟩ := settled.candidate found
  rcases settled.served.completed operation p found completed with queued | results
  · simp [settled.idle] at queued
  · obtain ⟨published, result⟩ := results o candidate
    have checks := settled.checked.outputs _ o candidate
    exact ⟨o, candidate, owned, published, OutputRow.published_eq checks ▸ published, result⟩

theorem Settled.agrees (settled : Settled s) : Agrees s where
  alone := settled.pending.alone
  pending := fun _ _ found _ => settled.pending_iff found
  controlled := settled.rooted.operations
  completed := fun _ _ found completed => settled.completed found completed
  released := fun viewer r found released =>
    ⟨settled.served.outputs viewer r found released, settled.served.operations viewer r found released⟩

theorem Settled.ready (settled : Settled s) : ReadyOutputs (fun o => Serving o ∨ Cleaned o) s := by
  intro viewer v found ready
  obtain ⟨output, o, current, known, published, state⟩ := settled.served.ready viewer v found ready
  obtain ⟨owned, same, attributed⟩ := settled.served.current viewer v output found current
  cases known.symm.trans same
  refine ⟨output, o, current, known, attributed, ?_⟩
  have complete := OutputRow.complete_iff (settled.checked.outputs output o known)
  rcases state with serving | cleaned
  · refine .inl ⟨published, serving, Bool.eq_false_iff.mpr fun done => ?_⟩
    rw [complete.mpr done] at serving
    cases serving
  · exact .inr ⟨published, cleaned, complete.mp cleaned⟩

/-- In every reachable state each viewer has at most one operation that has not
ended, its control points at that one, completed operations carry the published
result of their candidate, released viewers have nothing left, and a ready
control has a published output that is served or already cleaned up. -/
theorem control_graph_agrees (digest : ConfigurationResponse → Option String) {sys : System}
    (reachable : Reachable digest sys) :
    Agrees sys.store ∧ ReadyOutputs (fun o => Serving o ∨ Cleaned o) sys.store :=
  ⟨reachable.sound.settled.agrees, reachable.sound.settled.ready⟩

/-- A stopped viewer: its output is cleaned before its control is retired. -/
def Sample.stopped : List Move := Sample.playing ++ [
  ⟨[], .stop Sample.request.actor true Sample.request.id⟩,
  ⟨[], .clean Sample.request.id Sample.first.id none none⟩]

theorem stopped_viewer_agrees :
    Agrees (run Sample.digest (.deployed Sample.start) Sample.stopped).store ∧
    ReadyOutputs (fun o => Serving o ∨ Cleaned o)
      (run Sample.digest (.deployed Sample.start) Sample.stopped).store :=
  control_graph_agrees Sample.digest ⟨Sample.start, Sample.stopped, rfl⟩

/-- Between the two, the ready control points at a completed output. -/
theorem ready_control_outlives_output :
    ¬ ∀ sys, Reachable Sample.digest sys → ReadyOutputs Serving sys.store := by
  intro serves
  have ready : ((run Sample.digest (.deployed Sample.start) Sample.stopped).store.controls.find
      Sample.request.id).any (fun v => v.state = .ready && v.currentOutput = some Sample.first.id) =
        true := by decide +kernel
  have completed : ((run Sample.digest (.deployed Sample.start) Sample.stopped).store.outputs.find
      Sample.first.id).all (fun o => o.resourcesCompleted) = true := by decide +kernel
  obtain ⟨v, found, state⟩ := (Option.any_eq_true _ _).mp ready
  simp only [Bool.and_eq_true, decide_eq_true_eq] at state
  obtain ⟨output, o, current, known, -, -, -, running⟩ :=
    serves _ ⟨Sample.start, Sample.stopped, rfl⟩ _ v found state.1
  cases state.2.symm.trans current
  rw [known, Option.all_some, running] at completed
  cases completed

end Duskcue.Playback
