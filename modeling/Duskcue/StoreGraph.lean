import Duskcue.VodSteps

/-! The invariants of the tables, one step at a time. Inside a transaction an
invariant that a deferred trigger guards may be broken for a row whose trigger
is queued; `Committed` says that none is left behind. -/
namespace Duskcue.Playback

variable {id : Uuid} {s s' : Store} {control : Control} {p : Operation}

/-! ## Parents -/

/-- The foreign keys that are checked at once: every row has its parent. -/
structure Rooted (s : Store) : Prop where
  commands : ∀ id c, s.commands.find id = some c → (s.reservations.find id).isSome = true
  controls : ∀ id v, s.controls.find id = some v → (s.commands.find id).isSome = true
  outputs : ∀ id o, s.outputs.find id = some o → (s.commands.find o.reservationId).isSome = true
  operations : ∀ id p, s.operations.find id = some p →
    (s.controls.find p.reservationId).isSome = true

theorem Rooted.step (rooted : Rooted s) (step : Step s s') : Rooted s' := by
  obtain ⟨commands, controls, outputs, operations⟩ := rooted
  cases step with
  | reserve admission | promote admission =>
    have := admission.absent
    constructor <;> grind
  | revise revision | release revision =>
    have := revision.found
    constructor <;> grind
  | expire _ _ _ _ _ account =>
    obtain ⟨-, rfl⟩ | ⟨-, -, -, rfl⟩ := account <;>
      constructor <;> grind
  | command | deleteOutput | insertControl => constructor <;> grind
  | insertOutput insertion =>
    have := insertion.owner
    constructor <;> grind
  | updateOutput update =>
    have := update.found
    have := update.same
    constructor <;> grind [OutputRow.SameAttribution]
  | updateControl update =>
    have := update.found
    constructor <;> grind
  | insertOperation insertion =>
    have := insertion.viewer
    constructor <;> grind
  | updateOperation update =>
    have := update.found
    have := update.same
    constructor <;> grind [Operation.SameAttribution]
  | deleteOperation deletion =>
    have := deletion.viewer
    constructor <;> grind
  | _ => exact ⟨commands, controls, outputs, operations⟩

/-! ## Directory and instances -/

theorem Step.directory (step : Step s s') : s'.directory = s.directory := by
  cases step with
  | expire _ _ _ _ _ account => obtain ⟨-, rfl⟩ | ⟨-, -, -, rfl⟩ := account <;> rfl
  | _ => rfl

/-- An instance stays registered, and a fenced one stays fenced. -/
theorem Step.registered (step : Step s s') (found : s.instances.find id = some old) :
    ∃ new, s'.instances.find id = some new ∧ (old.fenced = true → new.fenced = true) := by
  cases step with
  | expire _ _ _ _ _ account =>
    obtain ⟨-, rfl⟩ | ⟨-, -, -, rfl⟩ := account <;> exact ⟨old, found, fun fenced => fenced⟩
  | enroll | operate => grind
  | _ => exact ⟨old, found, fun fenced => fenced⟩

theorem Steps.registered (steps : Steps s s') (found : s.instances.find id = some old) :
    ∃ new, s'.instances.find id = some new ∧ (old.fenced = true → new.fenced = true) := by
  induction steps with
  | refl => exact ⟨old, found, fun fenced => fenced⟩
  | tail _ last ih =>
    obtain ⟨middle, known, kept⟩ := ih
    obtain ⟨new, written, still⟩ := last.registered known
    exact ⟨new, written, fun fenced => still (kept fenced)⟩

/-! ## Rows -/

/-- Every row satisfies the constraints of its table, and no operation is
uncertain: no statement of the server makes one so. -/
structure Checked (s : Store) : Prop where
  outputs : ∀ id o, s.outputs.find id = some o → o.checks id = true
  operations : ∀ id p, s.operations.find id = some p → p.checks id = true
  certain : ∀ id p, s.operations.find id = some p → p.state ≠ .uncertain

theorem Checked.step (checked : Checked s) (step : Step s s') : Checked s' := by
  obtain ⟨outputs, operations, certain⟩ := checked
  cases step with
  | expire _ _ _ _ _ account =>
    obtain ⟨-, rfl⟩ | ⟨-, -, -, rfl⟩ := account <;> constructor <;> grind
  | insertOutput insertion =>
    have := insertion.checks
    constructor <;> grind
  | updateOutput update =>
    have := update.checks
    constructor <;> grind
  | deleteOutput | deleteOperation => constructor <;> grind
  | insertOperation insertion =>
    have := insertion.checks
    have := insertion.accepted
    constructor <;> grind
  | updateOperation update =>
    have := update.checks
    have := update.certain
    have := update.found
    constructor <;> grind
  | _ => exact ⟨outputs, operations, certain⟩

theorem Operation.terminal_eq (checks : p.checks id = true) : p.state.terminal = p.terminalAt.isSome := by
  simp only [Operation.checks, Bool.and_eq_true, beq_iff_eq] at checks
  exact checks.1.2

theorem OutputRow.published_eq {o : OutputRow} (checks : o.checks id = true) :
    o.publishedAt.isSome = o.result.isSome := by
  simp only [OutputRow.checks, Bool.and_eq_true, beq_iff_eq] at checks
  rw [← Option.not_isNone, ← Option.not_isNone, checks.1.1.1.1.1.2]

theorem OutputRow.complete_iff {o : OutputRow} (checks : o.checks id = true) :
    o.state = .complete ↔ o.resourcesCompleted = true := by
  simp only [OutputRow.checks, Bool.and_eq_true, beq_iff_eq] at checks
  simp [← checks.1.2]

/-- How far an operation has come. -/
def OperationState.rank : OperationState → Nat
  | .accepted | .uncertain => 0
  | .retiring => 1
  | .preparing => 2
  | .completed | .failed | .cancelled => 3

/-- An operation never goes back, and an ended one stays as it ended. -/
theorem OperationUpdate.forward (update : OperationUpdate s id old new) (checks : old.checks id = true) :
    old.state.rank ≤ new.state.rank ∧
      (old.state.terminal = true → new.state = old.state ∧ new.result = old.result) := by
  have ended := update.ended
  rw [← Operation.terminal_eq checks] at ended
  refine ⟨?_, fun terminal => ⟨(ended terminal).1, (ended terminal).2.2⟩⟩
  have started := update.started
  have preparing := update.preparing
  have uncertain := update.uncertain
  have certain := update.certain
  revert ended started preparing uncertain certain
  cases old.state <;> cases new.state <;> simp [OperationState.rank, OperationState.terminal]

theorem OperationInsertion.started
    (insertion : OperationInsertion s id row control) : row.state.terminal = false := by
  rw [insertion.accepted]
  rfl

theorem Revision.live (revision : Revision s id old new) (unreleased : new.state ≠ .released) :
    old.state ≠ .released := by
  have forward := revision.forward
  revert forward unreleased
  cases old.state <;> cases new.state <;> simp [ReservationState.rank]

theorem Control.of_initial {v : Control} (initial : v.initial = true) :
    v.pendingOperation = none ∧ v.state = .preparing ∧ v.retainedOperations = 0 := by
  simp only [Control.initial, Bool.and_eq_true, Option.isNone_iff_eq_none, decide_eq_true_eq] at initial
  exact ⟨initial.1.1.1.2, initial.1.1.2, initial.1.1.1.1⟩

/-! ## Pending operations -/

/-- The pending operation of a control and the operation that has not ended are the
same; each side may wait for a queued trigger. -/
structure Pending (s : Store) : Prop where
  alone : ∀ a b p q, s.operations.find a = some p → s.operations.find b = some q →
    p.reservationId = q.reservationId → p.state.terminal = false → q.state.terminal = false → a = b
  changing : ∀ id v, s.controls.find id = some v → v.pendingOperation.isSome = true →
    v.state = .changing
  named : ∀ id v operation, s.controls.find id = some v → v.pendingOperation = some operation →
    .control id ∈ s.deferred ∨ ∃ p, s.operations.find operation = some p ∧ p.reservationId = id ∧
      (p.state.terminal = false ∨ .operation id operation ∈ s.deferred)
  owned : ∀ id p, s.operations.find id = some p → p.state.terminal = false →
    .operation p.reservationId id ∈ s.deferred ∨
      ∃ v, s.controls.find p.reservationId = some v ∧ v.pendingOperation = some id
  replaced : ∀ id v operation, s.controls.find id = some v → v.pendingOperation = some operation →
    ∃ p, s.operations.find operation = some p ∧ (v.currentOutput = some p.expectedOutput ∨
      ∀ r, s.reservations.find id = some r → r.state = .released)

section
variable (pending : Pending s)
include pending

/-- What leaves the operations and the controls, queues no less and releases no less keeps
the two in step. -/
theorem Pending.kept (operations : s'.operations = s.operations)
    (controls : s'.controls = s.controls) (queued : ∀ event ∈ s.deferred, event ∈ s'.deferred)
    (released : ∀ id v r', s.controls.find id = some v → s'.reservations.find id = some r' →
      ∃ r, s.reservations.find id = some r ∧ (r.state = .released → r'.state = .released)) :
    Pending s' := by
  refine ⟨?_, ?_, ?_, ?_, ?_⟩
  · rw [operations]
    exact pending.alone
  · rw [controls]
    exact pending.changing
  · rw [operations, controls]
    intro id v operation found names
    rcases pending.named id v operation found names with waits | ⟨p, known, owner, open_⟩
    · exact .inl (queued _ waits)
    · exact .inr ⟨p, known, owner, open_.imp_right (queued _)⟩
  · rw [operations, controls]
    exact fun id p found open_ => (pending.owned id p found open_).imp_left (queued _)
  · rw [operations, controls]
    intro id v operation found names
    obtain ⟨p, known, expects⟩ := pending.replaced id v operation found names
    refine ⟨p, known, expects.imp_right fun ended r' stored => ?_⟩
    obtain ⟨r, before, keeps⟩ := released id v r' found stored
    exact keeps (ended r before)

theorem Pending.expire (operations : s'.operations = s.operations) (controls : s'.controls = s.controls.remove id)
    (reservations : s'.reservations = s.reservations.remove id) (queue : s'.deferred = s.deferred)
    (free : ∀ operation p, s.operations.find operation = some p → p.reservationId ≠ id) : Pending s' := by
  refine ⟨?_, ?_, ?_, ?_, ?_⟩
  · rw [operations]
    exact pending.alone
  · rw [controls]
    exact fun viewer v found => pending.changing viewer v (Table.find_of_remove found)
  · rw [operations, controls, queue]
    exact fun viewer v operation found => pending.named viewer v operation (Table.find_of_remove found)
  · rw [operations, controls, queue]
    intro operation p found open_
    rcases pending.owned operation p found open_ with waits | ⟨v, known, names⟩
    · exact .inl waits
    · refine .inr ⟨v, ?_, names⟩
      rw [Table.find_remove, if_neg (free operation p found)]
      exact known
  · rw [operations, controls, reservations]
    intro viewer v operation found names
    obtain ⟨p, known, expects⟩ := pending.replaced viewer v operation (Table.find_of_remove found) names
    exact ⟨p, known, expects.imp_right fun ended r stored => ended r (Table.find_of_remove stored)⟩

theorem Pending.insertControl {row : Control} (absent : s.controls.find id = none) (idle : row.pendingOperation = none) :
    Pending { s with controls := s.controls.put id row, deferred := .control id :: s.deferred } := by
  obtain ⟨alone, changing, named, owned, replaced⟩ := pending
  constructor <;> grind

theorem Pending.updateControl {old new : Control} (update : ControlUpdate s id old new) :
    Pending { s with controls := s.controls.put id new, deferred := .control id :: s.deferred } := by
  obtain ⟨alone, unsettled, named, owned, before⟩ := pending
  obtain ⟨found, -, -, -, -, -, pending, changing, replaced⟩ := update
  constructor <;> grind

theorem Pending.insertOperation {row : Operation} {cutoff : Time} (insertion : OperationInsertion s id row control) :
    Pending { s.withOperations cutoff 1 with
      operations := s.operations.put id row
      controls := s.controls.put row.reservationId
        { control with retainedOperations := control.retainedOperations + 1 }
      deferred := .operation row.reservationId id :: .control row.reservationId :: s.deferred } := by
  have started := insertion.started
  obtain ⟨alone, changing, named, owned, replaced⟩ := pending
  obtain ⟨absent, -, -, -, _, idle, -, others, -, -⟩ := insertion
  constructor <;> grind

theorem Pending.updateOperation {old new : Operation} (found : s.operations.find id = some old)
    (same : old.SameAttribution new)
    (forward : old.state.rank ≤ new.state.rank ∧
      (old.state.terminal = true → new.state = old.state ∧ new.result = old.result)) :
    Pending { s with
      operations := s.operations.put id new
      deferred := .operation new.reservationId id :: s.deferred } := by
  obtain ⟨alone, changing, named, owned, replaced⟩ := pending
  constructor <;> grind [Operation.SameAttribution]

theorem Pending.deleteOperation {old : Operation} (deletion : OperationDeletion s id old control) :
    Pending { s.withOperations s.operationRetention.cutoff (-1) with
      operations := s.operations.remove id
      controls := s.controls.put old.reservationId
        { control with retainedOperations := control.retainedOperations - 1 }
      deferred := .control old.reservationId :: s.deferred } := by
  obtain ⟨alone, changing, named, owned, replaced⟩ := pending
  obtain ⟨_, _, unreferenced, viewer, -⟩ := deletion
  constructor <;> grind

end

/-- A viewer with a control has a reservation. -/
theorem Rooted.admitted (rooted : Rooted s) {v : Control}
    (found : s.controls.find id = some v) : (s.reservations.find id).isSome = true := by
  obtain ⟨c, command⟩ := Option.isSome_iff_exists.mp (rooted.controls id v found)
  exact rooted.commands id c command

/-- A reservation of a viewer stays as it is when another is written. -/
theorem Rooted.elsewhere (rooted : Rooted s) (absent : s.reservations.find id = none)
    (found : s.controls.find viewer = some v) (stored : (s.reservations.put id row).find viewer = some r') :
    ∃ r, s.reservations.find viewer = some r ∧ (r.state = .released → r'.state = .released) := by
  have apart : viewer ≠ id := by
    rintro rfl
    have admitted := rooted.admitted found
    rw [absent] at admitted
    cases admitted
  exact ⟨r', (Table.find_put_ne apart).symm.trans stored, fun released => released⟩

/-- A reservation that is released stays so when it is written again. -/
theorem Revision.keeps (revision : Revision s id old new)
    (stored : (s.reservations.put id new).find viewer = some r') :
    ∃ r, s.reservations.find viewer = some r ∧ (r.state = .released → r'.state = .released) := by
  rw [Table.find_put] at stored
  split at stored
  · rename_i same
    cases stored
    refine ⟨old, same ▸ revision.found, fun released => ?_⟩
    have forward := revision.forward
    rw [released] at forward
    revert forward
    cases new.state <;> simp [ReservationState.rank]
  · exact ⟨r', stored, fun released => released⟩

theorem Pending.step (pending : Pending s) (rooted : Rooted s) (checked : Checked s)
    (step : Step s s') : Pending s' := by
  have still : ∀ id v r', s.controls.find id = some v → s.reservations.find id = some r' →
      ∃ r, s.reservations.find id = some r ∧ (r.state = .released → r'.state = .released) :=
    fun _ _ r' _ stored => ⟨r', stored, fun released => released⟩
  cases step with
  | reserve admission | promote admission =>
    exact pending.kept rfl rfl (fun _ => List.mem_cons_of_mem _) fun _ _ _ =>
      rooted.elsewhere admission.absent
  | revise revision | release revision =>
    exact pending.kept rfl rfl (fun _ member => member) fun _ _ _ _ => revision.keeps
  | expire _ _ _ _ free account =>
    obtain ⟨-, rfl⟩ | ⟨-, -, -, rfl⟩ := account <;> exact pending.expire rfl rfl rfl rfl free
  | insertControl absent _ initial =>
    exact pending.insertControl absent (Control.of_initial initial).1
  | updateControl update => exact pending.updateControl update
  | insertOperation insertion => exact pending.insertOperation insertion
  | updateOperation update =>
    exact pending.updateOperation update.found update.same (update.forward (checked.operations _ _ update.found))
  | deleteOperation deletion => exact pending.deleteOperation deletion
  | insertOutput | updateOutput => exact pending.kept rfl rfl (fun _ => List.mem_cons_of_mem _) still
  | _ => exact pending.kept rfl rfl (fun _ member => member) still

/-! ## Outputs -/

/-- What controls, completed operations and releases say about outputs. -/
structure Served (s : Store) : Prop where
  current : ∀ id v output, s.controls.find id = some v → v.currentOutput = some output →
    ∃ o, s.outputs.find output = some o ∧ o.reservationId = id
  ready : ∀ id v, s.controls.find id = some v → v.state = .ready → ∃ output o,
    v.currentOutput = some output ∧ s.outputs.find output = some o ∧ o.publishedAt.isSome = true ∧
      (o.state = .ready ∨ o.state = .complete)
  encoded : ∀ id v, s.controls.find id = some v → v.claimEncodes = false → v.state ≠ .retiring → ∀ output o,
    v.currentOutput = some output → s.outputs.find output = some o → o.encodes = false
  completed : ∀ id p, s.operations.find id = some p → p.state = .completed →
    .operation p.reservationId id ∈ s.deferred ∨ ∀ o, s.outputs.find p.candidateOutput = some o →
      o.publishedAt.isSome = true ∧ p.result = o.result
  outputs : ∀ id r, s.reservations.find id = some r → r.state = .released → ∀ output o,
    s.outputs.find output = some o → o.reservationId = id → o.resourcesCompleted = true
  operations : ∀ id r, s.reservations.find id = some r → r.state = .released → ∀ operation p,
    s.operations.find operation = some p → p.reservationId = id → p.state.terminal = true

theorem OutputUpdate.serves (update : OutputUpdate s id old new) (checks : old.checks id = true)
    (published : old.publishedAt.isSome = true) :
    new.publishedAt = old.publishedAt ∧ new.result = old.result ∧
      (old.state = .ready ∨ old.state = .complete → new.state = .ready ∨ new.state = .complete ∨
        ∀ viewer v, s.controls.find viewer = some v → v.currentOutput = some id →
          v.state ≠ .ready) := by
  rw [OutputRow.published_eq checks] at published
  have kept := update.published published
  refine ⟨kept.2, kept.1, ?_⟩
  have forward := update.forward
  have served := update.served
  have retired := update.retired
  revert forward served retired
  cases old.state <;> cases new.state <;> simp

/-- What leaves controls, outputs and operations, queues no less and releases nothing keeps
what they say of outputs. -/
theorem Served.kept (served : Served s) (controls : s'.controls = s.controls)
    (outputs : s'.outputs = s.outputs) (operations : s'.operations = s.operations)
    (queued : ∀ event ∈ s.deferred, event ∈ s'.deferred)
    (released : ∀ id r', s'.reservations.find id = some r' → r'.state = .released →
      ∃ r, s.reservations.find id = some r ∧ r.state = .released) : Served s' := by
  refine ⟨?_, ?_, ?_, ?_, ?_, ?_⟩
  · rw [controls, outputs]
    exact served.current
  · rw [controls, outputs]
    exact served.ready
  · rw [controls, outputs]
    exact served.encoded
  · rw [operations, outputs]
    exact fun id p found completed => (served.completed id p found completed).imp_left (queued _)
  · rw [outputs]
    intro id r' stored ended
    obtain ⟨r, before, gone⟩ := released id r' stored ended
    exact served.outputs id r before gone
  · rw [operations]
    intro id r' stored ended
    obtain ⟨r, before, gone⟩ := released id r' stored ended
    exact served.operations id r before gone

/-- A reservation that is written without a release was released only where it was before. -/
theorem released_put {row : Reservation} (unreleased : row.state ≠ .released)
    (viewer : Uuid) (r' : Reservation) (stored : (s.reservations.put id row).find viewer = some r')
    (released : r'.state = .released) : ∃ r, s.reservations.find viewer = some r ∧ r.state = .released := by
  rw [Table.find_put] at stored
  split at stored
  · cases stored
    exact absurd released unreleased
  · exact ⟨r', stored, released⟩

section
variable (served : Served s)
include served

theorem Served.release {old new : Reservation} {intents : Table Uuid StartIntent}
    (revision : Revision s id old new) (released : new.state = .released) :
    Served { s with reservations := s.reservations.put id new, intents } := by
  have complete := revision.outputs released
  have terminal := revision.operations released
  obtain ⟨current, ready, encoded, completed, outputs, operations⟩ := served
  constructor <;> grind

theorem Served.expire (controls : s'.controls = s.controls.remove id)
    (outputs : s'.outputs = s.outputs.discard fun _ o => o.reservationId = id)
    (operations : s'.operations = s.operations) (reservations : s'.reservations = s.reservations.remove id)
    (queue : s'.deferred = s.deferred) : Served s' := by
  obtain ⟨current, ready, encoded, completed, spared, ended⟩ := served
  constructor <;> grind

theorem Served.insertOutput {row : OutputRow} (insertion : OutputInsertion s id row) : Served { s with
      outputs := s.outputs.put id row
      deferred := .output row.reservationId id :: s.deferred } := by
  obtain ⟨current, ready, encoded, completed, outputs, operations⟩ := served
  obtain ⟨absent, _, held, -, -, candidates⟩ := insertion
  constructor <;> grind

theorem Served.updateOutput {old new : OutputRow} (update : OutputUpdate s id old new) (checks : old.checks id = true) : Served { s with
      outputs := s.outputs.put id new
      deferred := .output new.reservationId id :: s.deferred } := by
  have found := update.found
  have same := update.same
  have serves := update.serves checks
  have kept := update.completed
  obtain ⟨current, ready, encoded, completed, outputs, operations⟩ := served
  constructor <;> grind [OutputRow.SameAttribution]

theorem Served.deleteOutput (free : ∀ viewer v, s.controls.find viewer = some v → v.currentOutput ≠ some id) :
    Served { s with outputs := s.outputs.remove id } := by
  obtain ⟨current, ready, encoded, completed, outputs, operations⟩ := served
  constructor <;> grind

theorem Served.insertControl {row : Control} (preparing : row.state = .preparing) (write : ControlWrite s id none row) :
    Served { s with controls := s.controls.put id row, deferred := .control id :: s.deferred } := by
  obtain ⟨current, ready, encoded, completed, outputs, operations⟩ := served
  obtain ⟨attributed, -, unencoded, -, -, -⟩ := write
  constructor <;> grind

theorem Served.updateControl {old new : Control} (write : ControlWrite s id (some old) new) :
    Served { s with controls := s.controls.put id new, deferred := .control id :: s.deferred } := by
  obtain ⟨current, ready, encoded, completed, outputs, operations⟩ := served
  obtain ⟨attributed, -, unencoded, backed, -, -⟩ := write
  constructor <;> grind

theorem Served.insertOperation {row : Operation} {cutoff : Time} (insertion : OperationInsertion s id row control) :
    Served { s.withOperations cutoff 1 with
      operations := s.operations.put id row
      controls := s.controls.put row.reservationId
        { control with retainedOperations := control.retainedOperations + 1 }
      deferred := .operation row.reservationId id :: .control row.reservationId :: s.deferred } := by
  obtain ⟨current, ready, encoded, completed, outputs, operations⟩ := served
  obtain ⟨_, -, accepted, held, viewer, -, -, -, -, -⟩ := insertion
  constructor <;> grind

theorem Served.updateOperation {old new : Operation} (found : s.operations.find id = some old) (same : old.SameAttribution new)
    (forward : old.state.rank ≤ new.state.rank ∧
      (old.state.terminal = true → new.state = old.state ∧ new.result = old.result)) :
    Served { s with
      operations := s.operations.put id new
      deferred := .operation new.reservationId id :: s.deferred } := by
  obtain ⟨current, ready, encoded, completed, outputs, operations⟩ := served
  constructor <;> grind [Operation.SameAttribution]

theorem Served.deleteOperation {old : Operation} (deletion : OperationDeletion s id old control) :
    Served { s.withOperations s.operationRetention.cutoff (-1) with
      operations := s.operations.remove id
      controls := s.controls.put old.reservationId
        { control with retainedOperations := control.retainedOperations - 1 }
      deferred := .control old.reservationId :: s.deferred } := by
  obtain ⟨current, ready, encoded, completed, outputs, operations⟩ := served
  obtain ⟨_, -, -, viewer, -⟩ := deletion
  constructor <;> grind

theorem Served.step (rooted : Rooted s) (checked : Checked s) (step : Step s s') : Served s' := by
  have still : ∀ id r', s.reservations.find id = some r' → r'.state = .released →
      ∃ r, s.reservations.find id = some r ∧ r.state = .released :=
    fun _ r' stored released => ⟨r', stored, released⟩
  cases step with
  | reserve admission | promote admission =>
    refine served.kept rfl rfl rfl (fun _ => List.mem_cons_of_mem _) (released_put ?_)
    rw [admission.held]
    decide
  | revise _ unreleased =>
    exact served.kept rfl rfl rfl (fun _ member => member) (released_put unreleased)
  | release revision released => exact served.release revision released
  | expire _ _ _ _ _ account =>
    obtain ⟨-, rfl⟩ | ⟨-, -, -, rfl⟩ := account <;> exact served.expire rfl rfl rfl rfl rfl
  | insertOutput insertion => exact served.insertOutput insertion
  | updateOutput update => exact served.updateOutput update (checked.outputs _ _ update.found)
  | deleteOutput found free => exact served.deleteOutput (free (rooted.outputs _ _ found)).2
  | insertControl _ _ initial write =>
    exact served.insertControl (Control.of_initial initial).2.1 write
  | updateControl update => exact served.updateControl update.write
  | insertOperation insertion => exact served.insertOperation insertion
  | updateOperation update =>
    exact served.updateOperation update.found update.same (update.forward (checked.operations _ _ update.found))
  | deleteOperation deletion => exact served.deleteOperation deletion
  | _ => exact served.kept rfl rfl rfl (fun _ member => member) still

end

/-! ## Between transactions -/

/-- What every step of a transaction keeps. -/
structure Consistent (s : Store) : Prop where
  rooted : Rooted s
  checked : Checked s
  pending : Pending s
  served : Served s

theorem Consistent.step (consistent : Consistent s) (step : Step s s') :
    Consistent s' where
  rooted := consistent.rooted.step step
  checked := consistent.checked.step step
  pending := consistent.pending.step consistent.rooted consistent.checked step
  served := consistent.served.step consistent.rooted consistent.checked step

theorem Consistent.steps (consistent : Consistent s) (steps : Steps s s') : Consistent s' := by
  induction steps with
  | refl => exact consistent
  | tail _ last ih => exact ih.step last

/-- A store no transaction is working on. -/
structure Settled (s : Store) : Prop extends Consistent s where
  idle : s.deferred = []
  keys : s.foreignKeys = true

/-- The directory is not part of the graph. -/
theorem Settled.administer (settled : Settled s) (directory : Directory) : Settled { s with directory } := by
  obtain ⟨⟨rooted, checked, pending, served⟩, idle, keys⟩ := settled
  exact {
    rooted := ⟨rooted.commands, rooted.controls, rooted.outputs, rooted.operations⟩
    checked := ⟨checked.outputs, checked.operations, checked.certain⟩
    pending := ⟨pending.alone, pending.changing, pending.named, pending.owned, pending.replaced⟩
    served := ⟨served.current, served.ready, served.encoded, served.completed, served.outputs, served.operations⟩
    idle, keys }

theorem Settled.candidate (settled : Settled s) (found : s.operations.find id = some p) :
    ∃ o, s.outputs.find p.candidateOutput = some o ∧ o.reservationId = p.reservationId := by
  have keys := settled.keys
  simp only [Store.foreignKeys, Bool.and_eq_true, Bool.not_eq_true', Table.holds_eq_false,
    Bool.not_eq_false', Option.any_eq_true, decide_eq_true_eq] at keys
  exact keys.2 id p found

/-- The operation a control points at is the viewer's one that has not ended. -/
theorem Settled.named (settled : Settled s)
    (found : s.controls.find viewer = some v) (pending : v.pendingOperation = some id) :
    ∃ p, s.operations.find id = some p ∧ p.reservationId = viewer ∧ p.state.terminal = false := by
  rcases settled.pending.named viewer v id found pending with queued | ⟨p, known, owned, open_ | queued⟩
  · simp [settled.idle] at queued
  · exact ⟨p, known, owned, open_⟩
  · simp [settled.idle] at queued

/-- Once the operation a control points at has ended, all of the viewer's have. -/
theorem Settled.ended (settled : Settled s) {new : Operation}
    (known : s.operations.find id = some p) (owned : p.reservationId = viewer)
    (open_ : p.state.terminal = false) (terminal : new.state.terminal = true) :
    ∀ operation q, (s.operations.put id new).find operation = some q → q.reservationId = viewer →
      q.state.terminal = true := by
  intro operation q found same
  by_cases which : operation = id
  · subst which
    cases (Table.find_put_self ..).symm.trans found
    exact terminal
  · rw [Table.find_put_ne which] at found
    by_contra unended
    exact which (settled.pending.alone operation id q p found known (same.trans owned.symm)
      (by simpa using unended) open_)

/-- What the graph guard made sure of when it ran for an operation. -/
theorem judged_operation (judged : Deferred.satisfied s (.operation p.reservationId id) = true)
    (found : s.operations.find id = some p) (viewer : s.controls.find p.reservationId = some v) :
    (p.terminalAt = none → v.pendingOperation = some id) ∧
      (v.pendingOperation = some id → p.terminalAt = none) ∧
      (p.state = .completed → ∀ o, s.outputs.find p.candidateOutput = some o →
        o.publishedAt.isSome = true ∧ p.result = o.result) := by
  cases root : s.commands.find p.reservationId with
  | none => simp [Deferred.satisfied, playbackVodGraphGuard, viewer, root] at judged
  | some =>
    simp only [Deferred.satisfied, playbackVodGraphGuard, viewer, root, playbackVodGraphGuardOperation,
      found, Option.all_some, Option.any_eq_true, Bool.and_eq_true, Bool.or_eq_true,
      decide_eq_true_eq] at judged
    obtain ⟨o, candidate, ⟨⟨-, unended⟩, ended⟩, result⟩ := judged
    refine ⟨fun open_ => ?_, fun pending => ?_, fun completed output known => ?_⟩
    · simp [open_] at unended
      exact unended.1
    · simpa [pending] using ended
    · cases candidate.symm.trans known
      simpa [completed] using result

/-- What the graph guard made sure of when it ran for a control. -/
theorem judged_control (judged : Deferred.satisfied s (.control id) = true) (found : s.controls.find id = some v) :
    (∀ operation, v.pendingOperation = some operation → ∃ p,
      s.operations.find operation = some p ∧ p.reservationId = id ∧ p.terminalAt = none) := by
  intro operation pending
  cases root : s.commands.find id with
  | none => simp [Deferred.satisfied, playbackVodGraphGuard, found, root] at judged
  | some =>
    simp only [Deferred.satisfied, playbackVodGraphGuard, found, root, playbackVodGraphGuardControl,
      pending, Option.all_some, Option.any_eq_true, Bool.and_eq_true, decide_eq_true_eq,
      Option.isNone_iff_eq_none] at judged
    exact judged.1.2

/-- What the graph guard made sure of when it ran for an output. -/
theorem Committed.linked (committed : Committed s s') (viewer id : Uuid) (queued : .output viewer id ∈ s.deferred)
    (owner : (s.commands.find viewer).isSome = true) (found : s.outputs.find id = some o)
    (owned : o.reservationId = viewer) (linked : o.operationId = some operation) :
    ∃ p, s.operations.find operation = some p ∧ p.reservationId = viewer ∧ p.candidateOutput = id := by
  subst owned
  have judged := committed.judged _ queued
  obtain ⟨root, commanded⟩ := Option.isSome_iff_exists.mp owner
  cases control : s.controls.find o.reservationId with
  | none => simp [Deferred.satisfied, playbackVodGraphGuard, control, commanded] at judged
  | some =>
    simp only [Deferred.satisfied, playbackVodGraphGuard, control, commanded,
      playbackVodGraphGuardOutput, found, linked, Option.all_some, Option.any_eq_true,
      Bool.and_eq_true, decide_eq_true_eq] at judged
    exact judged.2

theorem Committed.settled (committed : Committed s s') (consistent : Consistent s) : Settled s' := by
  obtain ⟨keys, judged, rfl⟩ := committed
  obtain ⟨rooted, checked, pending, served⟩ := consistent
  have operation : ∀ {id p}, s.operations.find id = some p →
      .operation p.reservationId id ∈ s.deferred → ∃ v, s.controls.find p.reservationId = some v ∧
        (p.state.terminal = false → v.pendingOperation = some id) ∧
        (v.pendingOperation = some id → p.state.terminal = false) ∧
        (p.state = .completed → ∀ o, s.outputs.find p.candidateOutput = some o →
          o.publishedAt.isSome = true ∧ p.result = o.result) := by
    intro id p found queued
    obtain ⟨v, viewer⟩ := Option.isSome_iff_exists.mp (rooted.operations id p found)
    have facts := judged_operation (judged _ queued) found viewer
    have terminal := Operation.terminal_eq (checked.operations id p found)
    rw [terminal]
    exact ⟨v, viewer, by simpa using facts.1, by simpa using facts.2.1, facts.2.2⟩
  have named : ∀ id v operation, s.controls.find id = some v → v.pendingOperation = some operation →
      ∃ p, s.operations.find operation = some p ∧ p.reservationId = id ∧ p.state.terminal = false := by
    intro id v op found pointing
    rcases pending.named id v op found pointing with queued | ⟨p, known, rfl, open_ | queued⟩
    · obtain ⟨p, known, owned, unended⟩ := judged_control (judged _ queued) found op pointing
      exact ⟨p, known, owned, by simp [Operation.terminal_eq (checked.operations op p known), unended]⟩
    · exact ⟨p, known, rfl, open_⟩
    · obtain ⟨w, viewer, -, unended, -⟩ := operation known queued
      cases found.symm.trans viewer
      exact ⟨p, known, rfl, unended pointing⟩
  refine {
    rooted := ⟨rooted.commands, rooted.controls, rooted.outputs, rooted.operations⟩
    checked := ⟨checked.outputs, checked.operations, checked.certain⟩
    pending := ⟨pending.alone, pending.changing, ?_, ?_, pending.replaced⟩
    served := ⟨served.current, served.ready, served.encoded, ?_, served.outputs, served.operations⟩
    idle := rfl
    keys := keys }
  · intro id v op found pointing
    obtain ⟨p, known, owned, open_⟩ := named id v op found pointing
    exact .inr ⟨p, known, owned, .inl open_⟩
  · intro id p found open_
    rcases pending.owned id p found open_ with queued | viewer
    · obtain ⟨v, viewer, unended, -, -⟩ := operation found queued
      exact .inr ⟨v, viewer, unended open_⟩
    · exact .inr viewer
  · intro id p found completed
    rcases served.completed id p found completed with queued | result
    · obtain ⟨v, -, -, -, result⟩ := operation found queued
      exact .inr (result completed)
    · exact .inr result

end Duskcue.Playback
