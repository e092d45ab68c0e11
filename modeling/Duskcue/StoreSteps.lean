import Duskcue.PlaybackSystem

/-! What the store can do, row by row. `Step` lists the effects a statement with its
triggers can have, each with what the triggers made sure of; a transaction is
a sequence of such effects followed by COMMIT. Every invariant of the store is
proved once for each effect, and no proof about the store unfolds a statement. -/
namespace Duskcue.Playback

/-! ## Vocabulary -/

/-- The store with its clock moved. -/
@[grind =]
def Store.moved (s : Store) (clock : Time) (ticks : List Nat) : Store := { s with clock, ticks }

/-- The identity carries a time at or above the floor. -/
def Timely (floor : Time) (id : Uuid) : Prop :=
  ∃ requested, id.extractTimestamp = some requested ∧ floor ≤ requested

/-- The identity carries no time more than two minutes ahead of the clock. -/
def Recent (clock : Time) (id : Uuid) : Prop :=
  ∀ requested, id.extractTimestamp = some requested → requested ≤ clock + 2 * minute

/-- The instance is registered and not fenced. -/
def Unfenced (s : Store) (instanceId : Uuid) : Prop :=
  ∃ row, s.instances.find instanceId = some row ∧ row.fenced = false

/-- What is counted for a household; no row counts as zero. -/
def Store.counted (s : Store) (household : Uuid) : Int := (s.households.find household).getD 0

/-- One more identity counted, in total and for its household. -/
@[grind =]
def Store.countIn (s : Store) (household : Uuid) : Store :=
  { s with
    retention := { s.retention with retainedCount := s.retention.retainedCount + 1 }
    households := s.households.put household (s.counted household + 1) }

/-- One identity less; a household's row goes with its last identity. -/
@[grind =]
def Store.countOut (s : Store) (household : Uuid) : Store :=
  { s with
    retention := { s.retention with retainedCount := s.retention.retainedCount - 1 }
    households :=
      if s.counted household - 1 = 0 then s.households.remove household
      else s.households.put household (s.counted household - 1) }

/-- The retention row with another cutoff. -/
@[grind =]
def Store.withCutoff (s : Store) (cutoff : Time) : Store :=
  { s with retention := { s.retention with cutoff } }

/-- The operation retention row with another cutoff and count. -/
@[grind =]
def Store.withOperations (s : Store) (cutoff : Time) (change : Int) : Store :=
  { s with
    operationRetention := { s.operationRetention with
      cutoff, retainedCount := s.operationRetention.retainedCount + change } }

/-- The live ceiling `verify` answers a live request of the household with. -/
def Directory.liveCeiling (d : Directory) (household : Uuid) : Option (Option Int) :=
  match d.liveAssignments.find household with
  | none => none
  | some a =>
    if limitValid a.maxLiveStreams && limitValid a.ownerMaxLiveStreams then some a.cap else none

def ReservationState.rank : ReservationState → Nat
  | .held => 0
  | .retiring => 1
  | .released => 2

/-! ## What the triggers make sure of -/

/-- A new reservation, with the command written beside it: the identity is free,
the instance takes admissions, and the household has room. -/
structure Admission (s : Store) (id : Uuid) (row : Reservation) (command : Option Command) :
    Prop where
  absent : s.reservations.find id = none
  held : row.state = .held
  unfenced : Unfenced s row.instanceId
  checks : row.checks id = true
  room : ∃ cap, s.directory.ceiling row.householdId = .ok cap ∧
    allows cap (s.viewers row.householdId) = true
  liveRoom : row.kind = .live → ∃ cap, s.directory.liveCeiling row.householdId = some cap ∧
    allows cap (s.liveViewers row.householdId) = true
  bare : command = none ∨ s.commands.find id = none
  encoderRoom : ∀ c, command = some c → c.encodes = true →
    ∃ policy, playbackVodPolicy s.directory row.householdId = some policy ∧
      allows policy.transcode (s.encoders row.householdId) = true

/-- An update of a reservation: its state moves forward, only an unfenced instance
extends its deadline, to a minute from the clock, and a release leaves nothing
behind. -/
structure Revision (s : Store) (id : Uuid) (old new : Reservation) : Prop where
  found : s.reservations.find id = some old
  same : old.SameAttribution new
  forward : old.state.rank ≤ new.state.rank
  checks : new.checks id = true
  deadline : new.deadline = old.deadline ∨
    Unfenced s old.instanceId ∧ new.deadline = s.clock + 60 * second
  outputs : new.state = .released → ∀ output o, s.outputs.find output = some o →
    o.reservationId = id → o.resourcesCompleted = true
  operations : new.state = .released → ∀ operation p, s.operations.find operation = some p →
    p.reservationId = id → p.state.terminal = true
  stamped : new.state = .released → (old.state = .released → old.releasedAt.isSome = true) →
    ∃ time, new.releasedAt = some time ∧ new.pruneAfter = some (pruneTime id time) ∧
      (old.state = .released ∧ old.releasedAt = some time ∨ s.clock ≤ time)

/-- The prune time of a settled intent follows from when it settled, which is kept
or not before the clock. -/
def StartIntent.Stamped (clock : Time) (id : Uuid) (old new : StartIntent) : Prop :=
  ∀ time, new.settledAt = some time → new.pruneAfter = some (pruneTime id time) ∧
    (old.settledAt = some time ∨ clock ≤ time)

/-- An update of a start intent, with whether a reservation of it is unreleased. -/
structure Amendment (unreleased : Bool) (id : Uuid) (old new : StartIntent) : Prop where
  same : old.SameAttribution new
  fenced : old.admissionFenced = true → new.admissionFenced = true
  complete : old.preparationComplete = true → new.preparationComplete = true
  promoted : old.promoted = true → new.promoted = true
  settled : new.settledAt.isSome = true ↔
    new.admissionFenced = true ∧ new.preparationComplete = true ∧ unreleased = false
  kept : ∀ time, old.settledAt = some time → new.settledAt.isSome = true → new.settledAt = some time
  checks : new.checks id = true

/-- A new output of a held viewer. An operation that names it as its candidate is
still to be judged at COMMIT. -/
structure OutputInsertion (s : Store) (id : Uuid) (row : OutputRow) : Prop where
  absent : s.outputs.find id = none
  owner : (s.commands.find row.reservationId).isSome = true
  held : ∃ r, s.reservations.find row.reservationId = some r ∧ r.state = .held
  fresh : row.state = .preparing ∧ row.resourcesCompleted = false ∧ row.result = none
  checks : row.checks id = true
  candidates : ∀ operation p, s.operations.find operation = some p → p.candidateOutput = id →
    .operation p.reservationId operation ∈ s.deferred
  linked : ∀ operation, row.operationId = some operation → ∃ p,
    s.operations.find operation = some p ∧ p.reservationId = row.reservationId ∧
      p.candidateOutput = id ∧ p.cleanupAt = none

/-- An update of an output. It stops being served only when no ready control
points at it. -/
structure OutputUpdate (s : Store) (id : Uuid) (old new : OutputRow) : Prop where
  found : s.outputs.find id = some old
  same : old.SameAttribution new
  published : old.result.isSome = true → new.result = old.result ∧ new.publishedAt = old.publishedAt
  completed : old.resourcesCompleted = true → new.resourcesCompleted = true
  forward : old.state = .retiring ∨ old.state = .complete → new.state = .retiring ∨ new.state = .complete
  served : old.state = .ready → new.state ≠ .preparing
  checks : new.checks id = true
  retired : new.state = .retiring → old.state = .retiring ∨
    ∀ viewer v, s.controls.find viewer = some v → v.currentOutput = some id → v.state ≠ .ready

/-- What every write of a control makes sure of: its output belongs to the viewer,
an encoder it gives up is not owed, a ready one has a served output, and an
encoder it takes leaves the household within its ceiling. -/
structure ControlWrite (s : Store) (id : Uuid) (old : Option Control) (new : Control) : Prop where
  current : ∀ output, new.currentOutput = some output →
    ∃ o, s.outputs.find output = some o ∧ o.reservationId = id
  owed : new.claimEncodes = false → ∀ output o, s.outputs.find output = some o →
    o.reservationId = id → o.encodes = true → o.resourcesCompleted = true
  encoded : new.claimEncodes = false → new.state ≠ .retiring → ∀ output o,
    new.currentOutput = some output → s.outputs.find output = some o → o.encodes = false
  ready : new.state = .ready → new.pendingOperation = none ∧ ∃ output o,
    new.currentOutput = some output ∧ s.outputs.find output = some o ∧ o.state = .ready ∧
      o.publishedAt.isSome = true
  capacity : new.claimEncodes = true → (∀ v, old = some v → v.claimEncodes = false) →
    ∃ r policy, s.reservations.find id = some r ∧
      playbackVodPolicy s.directory r.householdId = some policy ∧
      ∀ cap, policy.transcode = some cap → (s.otherEncoders r.householdId id : Int) < cap
  checks : new.checks = true

/-- The checkpoint columns are as they were. -/
def Control.SameCheckpoint (old new : Control) : Prop :=
  new.checkpointSequence = old.checkpointSequence ∧ new.checkpointOutput = old.checkpointOutput ∧
    new.checkpointPosition = old.checkpointPosition

/-- A checkpoint is kept, dropped with the output it is of, or followed by a later one
of the same output while nothing is pending. -/
def Control.CheckpointFollows (old new : Control) : Prop :=
  old.SameCheckpoint new ∨
    new.currentOutput ≠ old.currentOutput ∧ new.checkpointSequence = 0 ∨
    new.currentOutput = old.currentOutput ∧ old.checkpointSequence < new.checkpointSequence ∧
      new.checkpointOutput = new.currentOutput ∧ new.pendingOperation = none ∧
      (new.state = .ready ∨ new.state = .unavailable)

/-- The columns whose change gives a control a new revision. -/
def Control.Changed (old new : Control) : Prop :=
  new.state ≠ old.state ∨ new.currentOutput ≠ old.currentOutput ∨
    new.pendingOperation ≠ old.pendingOperation ∨ new.recoveryBudget ≠ old.recoveryBudget ∨
    new.playbackState ≠ old.playbackState

/-- What is spent of a budget stays so. -/
def RecoveryBudget.Spends (old new : RecoveryBudget) : Prop :=
  old.attempts ≤ new.attempts ∧ (old.restartedStall → new.restartedStall) ∧ (old.skippedDecode → new.skippedDecode) ∧
    (old.exhausted → new.exhausted)

/-- An update of a control by a statement of the server. Its pending operation is
set from nothing, and dropped only when every operation of the viewer has
ended; while one is pending the control points at the output it replaces. -/
structure ControlUpdate (s : Store) (id : Uuid) (old new : Control) : Prop where
  found : s.controls.find id = some old
  write : ControlWrite s id (some old) new
  revision : old.revision ≤ new.revision
  bumped : old.Changed new → old.revision < new.revision
  spends : old.recoveryBudget.Spends new.recoveryBudget
  retained : new.retainedOperations = old.retainedOperations
  retiring : old.state = .retiring → new.state = .retiring
  pending : new.pendingOperation = old.pendingOperation ∨ old.pendingOperation = none ∨
    new.pendingOperation = none ∧ ∀ operation p, s.operations.find operation = some p →
      p.reservationId = id → p.state.terminal = true
  changing : new.pendingOperation.isSome = true → new.state = .changing ∨
    new.state = old.state ∧ new.pendingOperation = old.pendingOperation
  replaced : ∀ operation, new.pendingOperation = some operation →
    (old.pendingOperation = some operation ∧ (new.currentOutput = old.currentOutput ∨
      ∀ r, s.reservations.find id = some r → r.state = .released)) ∨
    ∃ p, s.operations.find operation = some p ∧ new.currentOutput = some p.expectedOutput
  checkpoint : old.CheckpointFollows new
  cleared : new.currentOutput = old.currentOutput ∨ new.checkpointSequence = 0

/-- A new operation: its identity is free and timely, its viewer is held with
nothing pending, and there is room for it. -/
structure OperationInsertion (s : Store) (id : Uuid) (row : Operation) (control : Control) :
    Prop where
  absent : s.operations.find id = none
  timely : Timely s.operationRetention.cutoff id
  accepted : row.state = .accepted
  held : ∃ r, s.reservations.find row.reservationId = some r ∧ r.state = .held
  viewer : s.controls.find row.reservationId = some control
  idle : control.pendingOperation = none
  expected : control.currentOutput = some row.expectedOutput
  alone : ∀ operation p, s.operations.find operation = some p →
    p.reservationId = row.reservationId → p.state.terminal = true
  room : control.retainedOperations < 256 ∧ s.operationRetention.retainedCount < 131072
  checks : row.checks id = true
  recent : Recent s.clock id
  uncleaned : row.cleanupAt = none

/-- An update of an operation: it moves forward and keeps how it ended. -/
structure OperationUpdate (s : Store) (id : Uuid) (old new : Operation) : Prop where
  found : s.operations.find id = some old
  same : old.SameAttribution new
  ended : old.terminalAt.isSome = true →
    new.state = old.state ∧ new.terminalAt = old.terminalAt ∧ new.result = old.result
  uncertain : old.state = .uncertain → new.state = .uncertain ∨ new.state = .cancelled
  started : old.state = .retiring ∨ old.state = .preparing → new.state ≠ .accepted
  preparing : old.state = .preparing → new.state ≠ .retiring
  certain : new.state = .uncertain → old.state = .uncertain
  checks : new.checks id = true
  stamped : ∀ time, new.terminalAt = some time → old.terminalAt = some time ∨ s.clock ≤ time
  prunes : ∀ time, new.pruneAfter = some time → ∃ ended, new.terminalAt = some ended ∧
    ended + 24 * hour ≤ time
  cleaned : new.cleanupAt.isSome = true → ∀ output o, s.outputs.find output = some o →
    o.operationId = some id → o.resourcesCompleted = true

/-- A deletion of an operation below the cutoff that nothing refers to. -/
structure OperationDeletion (s : Store) (id : Uuid) (old : Operation) (control : Control) :
    Prop where
  found : s.operations.find id = some old
  expired : ¬ Timely s.operationRetention.cutoff id
  unreferenced : ∀ viewer v, s.controls.find viewer = some v → v.pendingOperation ≠ some id
  viewer : s.controls.find old.reservationId = some control
  kept : 0 < s.operationRetention.retainedCount ∧ 0 < control.retainedOperations
  unlinked : ∀ output o, s.outputs.find output = some o → o.operationId ≠ some id

/-! ## Steps -/

inductive Step : Store → Store → Prop
  | tick {s : Store} {clock : Time} (ticks : List Nat) (later : s.clock ≤ clock) :
    Step s (s.moved clock ticks)
  | record {s : Store} (event : OperatorEvent) :
    Step s { s with operatorEvents := event :: s.operatorEvents }
  | enroll {s : Store} {id : Uuid} {row : Instance} (absent : s.instances.find id = none)
      (unfenced : row.fenced = false) :
    Step s { s with instances := s.instances.put id row }
  | operate {s : Store} {id : Uuid} {old new : Instance} (found : s.instances.find id = some old)
      (kept : old.fenced = true → new.fenced = true) :
    Step s { s with instances := s.instances.put id new }
  | raise {s : Store} {cutoff : Time} (later : s.retention.cutoff ≤ cutoff) :
    Step s (s.withCutoff cutoff)
  | reserve {s : Store} {id : Uuid} {row : Reservation} {command : Option Command} {cutoff : Time}
      (admission : Admission s id row command) (unknown : s.intents.find id = none)
      (timely : Timely s.retention.cutoff id) (later : s.retention.cutoff ≤ cutoff)
      (room : s.retention.retainedCount < 65536 ∧ s.counted row.householdId < 4096)
      (recent : Recent s.clock id) :
    Step s { (s.withCutoff cutoff).countIn row.householdId with
      reservations := s.reservations.put id row
      commands := command.elim s.commands (s.commands.put id)
      deferred := .promotion id row.kind :: s.deferred }
  | promote {s : Store} {id : Uuid} {row : Reservation} {command : Option Command}
      {old new : StartIntent} (admission : Admission s id row command)
      (found : s.intents.find id = some old) (open_ : old.admissionFenced = false)
      (unpromoted : old.promoted = false) (promoted : new.promoted = true)
      (still : new.admissionFenced = false) (household : old.householdId = row.householdId)
      (amendment : Amendment false id old new) (owner : old.instanceId = row.instanceId) :
    Step s { s with
      reservations := s.reservations.put id row
      intents := s.intents.put id new
      commands := command.elim s.commands (s.commands.put id)
      deferred := .promotion id row.kind :: s.deferred }
  | revise {s : Store} {id : Uuid} {old new : Reservation} (revision : Revision s id old new)
      (unreleased : new.state ≠ .released) :
    Step s { s with reservations := s.reservations.put id new }
  | release {s : Store} {id : Uuid} {old new : Reservation} {intents : Table Uuid StartIntent}
      (revision : Revision s id old new) (released : new.state = .released)
      (settles : s.intents.find id = none ∧ intents = s.intents ∨
        ∃ before after, s.intents.find id = some before ∧ Amendment false id before after ∧
          after.admissionFenced = true ∧ intents = s.intents.put id after)
      (stamped : ∀ before after, s.intents.find id = some before → intents.find id = some after →
        StartIntent.Stamped s.clock id before after)
      (retired : ∀ v, s.controls.find id = some v → v.state = .retiring) :
    Step s { s with reservations := s.reservations.put id new, intents }
  | expire {s : Store} {id : Uuid} {old : Reservation} (accounted : Store) (found : s.reservations.find id = some old)
      (released : old.state = .released) (expired : ¬ Timely s.retention.cutoff id)
      (free : ∀ operation p, s.operations.find operation = some p → p.reservationId ≠ id)
      (account : (s.intents.find id).isSome = true ∧ accounted = s ∨
        s.intents.find id = none ∧ 0 < s.retention.retainedCount ∧
          0 < s.counted old.householdId ∧ accounted = s.countOut old.householdId) :
    Step s { accounted with
      reservations := s.reservations.remove id
      commands := s.commands.remove id
      controls := s.controls.remove id
      outputs := s.outputs.discard fun _ o => o.reservationId = id }
  | intend {s : Store} {id : Uuid} {row : StartIntent} {cutoff : Time}
      (absent : s.intents.find id = none) (unadmitted : s.reservations.find id = none)
      (timely : Timely s.retention.cutoff id) (later : s.retention.cutoff ≤ cutoff)
      (room : s.retention.retainedCount < 65536 ∧ s.counted row.householdId < 4096)
      (settled : row.settledAt.isSome = true ↔
        row.admissionFenced = true ∧ row.preparationComplete = true)
      (open_ : Unfenced s row.instanceId ∨ row.settledAt.isSome = true)
      (checks : row.checks id = true) (recent : Recent s.clock id)
      (stamped : ∀ time, row.settledAt = some time →
        row.pruneAfter = some (pruneTime id time) ∧ s.clock ≤ time) :
    Step s { (s.withCutoff cutoff).countIn row.householdId with intents := s.intents.put id row }
  | amend {s : Store} {id : Uuid} {old new : StartIntent} (found : s.intents.find id = some old)
      (amendment : Amendment (s.unreleased id) id old new)
      (promoted : new.promoted = old.promoted) (stamped : StartIntent.Stamped s.clock id old new) :
    Step s { s with intents := s.intents.put id new }
  | forget {s : Store} {id : Uuid} {old : StartIntent} (found : s.intents.find id = some old)
      (settled : old.settledAt.isSome = true) (expired : ¬ Timely s.retention.cutoff id)
      (unadmitted : s.reservations.find id = none)
      (kept : 0 < s.retention.retainedCount ∧ 0 < s.counted old.householdId) :
    Step s { s.countOut old.householdId with intents := s.intents.remove id }
  | command {s : Store} {id : Uuid} {old new : Command} (found : s.commands.find id = some old)
      (same : old.SameAttribution new) :
    Step s { s with commands := s.commands.put id new }
  | insertOutput {s : Store} {id : Uuid} {row : OutputRow} (insertion : OutputInsertion s id row) :
    Step s { s with
      outputs := s.outputs.put id row
      deferred := .output row.reservationId id :: s.deferred }
  | updateOutput {s : Store} {id : Uuid} {old new : OutputRow} (update : OutputUpdate s id old new) :
    Step s { s with
      outputs := s.outputs.put id new
      deferred := .output new.reservationId id :: s.deferred }
  | deleteOutput {s : Store} {id : Uuid} {old : OutputRow} (found : s.outputs.find id = some old)
      (free : (s.commands.find old.reservationId).isSome = true → old.resourcesCompleted = true ∧
        ∀ viewer v, s.controls.find viewer = some v → v.currentOutput ≠ some id) :
    Step s { s with outputs := s.outputs.remove id }
  | insertControl {s : Store} {id : Uuid} {row : Control} (absent : s.controls.find id = none)
      (owner : (s.commands.find id).isSome = true) (initial : row.initial = true)
      (write : ControlWrite s id none row)
      (unreleased : ∀ r, s.reservations.find id = some r → r.state ≠ .released) :
    Step s { s with
      controls := s.controls.put id row
      deferred := .control id :: s.deferred }
  | updateControl {s : Store} {id : Uuid} {old new : Control} (update : ControlUpdate s id old new) :
    Step s { s with
      controls := s.controls.put id new
      deferred := .control id :: s.deferred }
  | insertOperation {s : Store} {id : Uuid} {row : Operation} {control : Control} {cutoff : Time}
      (insertion : OperationInsertion s id row control) (later : s.operationRetention.cutoff ≤ cutoff) :
    Step s { s.withOperations cutoff 1 with
      operations := s.operations.put id row
      controls := s.controls.put row.reservationId
        { control with retainedOperations := control.retainedOperations + 1 }
      deferred := .operation row.reservationId id :: .control row.reservationId :: s.deferred }
  | updateOperation {s : Store} {id : Uuid} {old new : Operation} (update : OperationUpdate s id old new) :
    Step s { s with
      operations := s.operations.put id new
      deferred := .operation new.reservationId id :: s.deferred }
  | deleteOperation {s : Store} {id : Uuid} {old : Operation} {control : Control}
      (deletion : OperationDeletion s id old control) :
    Step s { s.withOperations s.operationRetention.cutoff (-1) with
      operations := s.operations.remove id
      controls := s.controls.put old.reservationId
        { control with retainedOperations := control.retainedOperations - 1 }
      deferred := .control old.reservationId :: s.deferred }
  | retain {s : Store} {cutoff : Time} {scan : Option (Time × Uuid)}
      (later : s.operationRetention.cutoff ≤ cutoff) :
    Step s { s with operationRetention := { s.operationRetention with cutoff, scan } }

/-- Steps of one transaction, in order. -/
abbrev Steps : Store → Store → Prop := Relation.ReflTransGen Step

/-- COMMIT keeps the tables and empties the queue it has judged. -/
structure Committed (s s' : Store) : Prop where
  keys : s.foreignKeys = true
  judged : ∀ event ∈ s.deferred, event.satisfied s = true
  cleared : s' = { s with deferred := [] }

end Duskcue.Playback
