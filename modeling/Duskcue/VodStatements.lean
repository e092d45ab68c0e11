import Duskcue.ReceiptStatements

/-! Statements on the VOD tables with the triggers they fire: commands, controls,
outputs, operations and the operation retention row. The graph guard and the
foreign keys between controls, outputs and operations are deferred: a statement
queues its row, and `commit` runs the queue. -/
namespace Duskcue.Playback
open Transaction

/-! ## Policy -/

/-- `vod::Policy`, the document `playback_vod_policy` builds. -/
structure Policy where
  total : Option Int
  transcode : Option Int
  bandwidth : Option Int
  allowDirectPlay : Bool
  allowDirectStream : Bool
  allowTranscode : Bool
  resolution : Option String
  allowTranscode4k : Bool
  requireDirectPlay4k : Bool
  supported : Bool
  valid : Bool

/-- A limit that is not set, or not negative. -/
def limitValid (limit : Option Int) : Bool := limit.all (0 ≤ ·)

/-- The assigned policy, or the only default one. -/
def Directory.effectivePolicy (d : Directory) (u : User) : Option StreamingPolicy :=
  match u.streamingPolicyId with
  | some id => d.streamingPolicies.find id
  | none =>
    match d.streamingPolicies.select fun _ p => p.isDefault with
    | [id] => d.streamingPolicies.find id
    | _ => none

/-- `playback_vod_policy`. -/
def playbackVodPolicy (d : Directory) (household : Uuid) : Option Policy := do
  let u ← d.users.find household
  let p ← d.effectivePolicy u
  return {
    total := u.maxStreams <|> p.maxStreams
    transcode := u.maxTranscodeStreams <|> p.maxTranscodeStreams
    bandwidth := u.bandwidthLimitBps <|> p.bandwidthLimitBps
    allowDirectPlay := p.allowDirectPlay
    allowDirectStream := p.allowDirectStream
    allowTranscode := p.allowTranscode
    resolution := p.maxTranscodeResolution
    allowTranscode4k := p.allowTranscode4k
    requireDirectPlay4k := p.requireDirectPlay4k
    supported := p.allowedIpRanges.isEmpty && p.blockedIpRanges.isEmpty &&
      p.autoTerminatePausedMinutes.isNone
    valid := limitValid u.maxStreams && limitValid u.maxTranscodeStreams &&
      limitValid p.maxStreams && limitValid p.maxTranscodeStreams &&
      limitValid u.bandwidthLimitBps && limitValid p.bandwidthLimitBps }

/-- `Policy::permits` on the columns it reads. -/
def Policy.permits (p : Policy) (mode : Mode) (encodes source4k : Bool) : Bool :=
  p.valid && p.supported &&
    (match mode with
    | .directPlay => p.allowDirectPlay
    | .directStream => p.allowDirectStream
    | .transcode => p.allowTranscode) &&
    (!encodes || p.allowTranscode) &&
    (!source4k || ((!encodes || p.allowTranscode4k) &&
      (mode = .directPlay || !p.requireDirectPlay4k)))

/-- The output `playback_vod_permitted` judges: the pending candidate, else the
current output, else the command itself. -/
def Store.judged (s : Store) (viewer : Uuid) : Option (Mode × Bool × Bool) :=
  match s.controls.find viewer with
  | none => (s.commands.find viewer).map fun c => (c.deliveryMode, c.encodes, c.source4k)
  | some v =>
    let output :=
      match v.pendingOperation.bind s.operations.find with
      | some p => some p.candidateOutput
      | none => v.currentOutput
    ((output.bind s.outputs.find).filter fun o => o.reservationId = viewer).map
      fun o => (o.deliveryMode, o.encodes, o.source4k)

/-- `playback_vod_permitted`. -/
def playbackVodPermitted (s : Store) (viewer : Uuid) (policy : Option Policy) : Bool :=
  policy.any fun p => p.valid && p.supported &&
    (s.judged viewer).all fun (mode, encodes, source4k) => p.permits mode encodes source4k

/-! ## Commands -/

/-- The constraints of `playback_vod_commands`. -/
def Command.checks (c : Command) : Bool :=
  (c.state ≠ .ready || (c.history.isSome && c.result.isSome)) &&
    (c.deliveryMode ≠ .directPlay || (!c.encodes && c.generationId.isNone)) &&
    (c.protocol = 1 || c.protocol = 2)

/-- The unique indexes of `playback_vod_commands`. -/
def Store.commandUnique (s : Store) (id : Uuid) (c : Command) : Bool :=
  !(s.commands.holds fun other d => other ≠ id &&
    ((c.history.isSome && d.history = c.history) ||
      (c.generationId.isSome && d.generationId = c.generationId)))

/-- Every column but the progress of the command is unchanged. -/
def Command.SameAttribution (old new : Command) : Prop :=
  new = { old with
    protocol := new.protocol, state := new.state, history := new.history
    generationId := new.generationId, result := new.result
    resourcesCompleted := new.resourcesCompleted, cleanupUncertain := new.cleanupUncertain }

instance (old new : Command) : Decidable (old.SameAttribution new) :=
  inferInstanceAs (Decidable (_ = _))

/-- `playback_start_command_binding`. -/
def playbackStartCommandBinding (id : Uuid) (new : Command) : Tx Unit := do
  require (!((← get).intents.find id |>.any fun i => !i.promoted || i.intentHash ≠ some new.intentHash))
    .PBR04 "playback start intent mismatch"

/-- `playback_vod_command_guard` on an insert. -/
def playbackVodCommandGuardInsert (id : Uuid) : Tx Unit := do
  require ((← get).reservations.find id |>.any fun r => r.kind = .vod && r.state = .held)
    .checkViolation "VOD command requires an admitted reservation"

/-- `playback_vod_command_guard` on an update. -/
def playbackVodCommandGuardUpdate (old new : Command) : Tx Unit :=
  require (old.SameAttribution new ∧ ¬(old.resourcesCompleted ∧ ¬new.resourcesCompleted) ∧
      ¬(old.cleanupUncertain ∧ ¬new.cleanupUncertain) ∧
      ¬(old.history.isSome ∧ (new.history, new.generationId, new.result) ≠
        (old.history, old.generationId, old.result)) ∧
      ¬(old.state ≠ .preparing ∧ new.state = .preparing) ∧
      ¬((old.state = .stopping ∨ old.state = .failed) ∧ new.state ≠ old.state ∧ new.state ≠ .failed))
    .checkViolation "VOD command attribution is immutable"

/-- `playback_vod_protocol_guard`. -/
def playbackVodProtocolGuard (old new : Command) : Tx Unit :=
  require (new.protocol = old.protocol) .PBR04 "VOD protocol attribution is immutable"

def insertCommand (id : Uuid) (row : Command) : Tx Unit := do
  playbackStartCommandBinding id row
  playbackVodCommandGuardInsert id
  require row.checks .checkViolation "playback_vod_commands_check"
  let s ← get
  require ((s.commands.find id).isNone && s.commandUnique id row) .uniqueViolation
    "playback_vod_commands_pkey"
  modify fun s => { s with commands := s.commands.put id row }

/-- `UPDATE playback_vod_commands SET ... WHERE reservation_id=$1`. -/
def updateCommand (id : Uuid) (assign : Command → Command) : Tx Unit := do
  match (← get).commands.find id with
  | none => return
  | some old =>
    let row := assign old
    playbackVodCommandGuardUpdate old row
    playbackVodProtocolGuard old row
    require row.checks .checkViolation "playback_vod_commands_check"
    require ((← get).commandUnique id row) .uniqueViolation "playback_vod_history"
    modify fun s => { s with commands := s.commands.put id row }

/-! ## Controls -/

/-- Whether a viewer holds an encoder: the join of the encoder count. -/
def Store.claimsEncoder (s : Store) (id : Uuid) : Bool :=
  match s.commands.find id with
  | none => false
  | some c => (s.controls.find id).elim c.encodes Control.claimEncodes

/-- The household's unreleased viewers that hold an encoder. -/
def Store.encoders (s : Store) (household : Uuid) : Nat :=
  s.reservations.count fun id r =>
    r.householdId = household && r.state ≠ .released && s.claimsEncoder id

/-- The same count without one viewer. -/
def Store.otherEncoders (s : Store) (household viewer : Uuid) : Nat :=
  s.reservations.count fun id r =>
    r.householdId = household && id ≠ viewer && r.state ≠ .released && s.claimsEncoder id

/-- Whether the viewer owns an encoded output that is not completed. -/
def Store.owesEncoder (s : Store) (viewer : Uuid) : Bool :=
  s.outputs.holds fun _ o => o.reservationId = viewer && o.encodes && !o.resourcesCompleted

/-- The output a control points at. -/
def Store.currentOf (s : Store) (v : Control) : Option OutputRow := v.currentOutput.bind s.outputs.find

/-- The constraints of `playback_vod_controls`. -/
def Control.checks (v : Control) : Bool :=
  0 < v.revision && 0 ≤ v.recoveryBudget.attempts && v.recoveryBudget.attempts ≤ 2 &&
    0 ≤ v.checkpointSequence && v.checkpointSequence ≤ 9007199254740991 &&
    v.checkpointPosition.all (0 ≤ ·) && 0 ≤ v.retainedOperations && v.retainedOperations ≤ 256 &&
    (v.checkpointSequence = 0 : Bool) == v.checkpointPosition.isNone &&
    (v.checkpointSequence = 0 : Bool) == v.checkpointOutput.isNone &&
    (v.state ≠ .changing || v.pendingOperation.isSome) &&
    (v.state = .retiring || v.currentOutput.isSome)

def Control.initial (v : Control) : Bool :=
  v.retainedOperations = 0 && v.pendingOperation.isNone && v.state = .preparing &&
    v.checkpointSequence = 0 && v.recoveryBudget = .initial

/-- `VOD control regression refused`. -/
def Control.regresses (depth : Nat) (old new : Control) : Bool :=
  new.revision < old.revision ||
    (new.retainedOperations ≠ old.retainedOperations &&
      (depth ≠ 2 || (new.retainedOperations - old.retainedOperations).natAbs ≠ 1)) ||
    (old.state = .retiring && new.state ≠ .retiring) ||
    (old.state = .uncertain && new.state ≠ .uncertain && new.state ≠ .retiring) ||
    new.recoveryBudget.attempts < old.recoveryBudget.attempts ||
    (old.recoveryBudget.exhausted && !new.recoveryBudget.exhausted) ||
    (old.recoveryBudget.restartedStall && !new.recoveryBudget.restartedStall) ||
    (old.recoveryBudget.skippedDecode && !new.recoveryBudget.skippedDecode)

/-- The part of `playback_vod_control_guard` that reads the new row only. -/
def playbackVodControlGuardOutputs (id : Uuid) (new : Control) : Tx Unit := do
  let s ← get
  let current := s.currentOf new
  require (new.currentOutput.isNone || current.any fun o => o.reservationId = id) .PBR04
    "VOD output attribution conflicts"
  require (new.claimEncodes || (!s.owesEncoder id &&
      (new.state = .retiring || !current.any fun o => o.encodes))) .PBR04
    "VOD encoding obligation remains"
  require (new.state ≠ .ready || (new.pendingOperation.isNone &&
      current.any fun o => o.state = .ready && o.publishedAt.isSome && !o.resourcesCompleted)) .PBR04
    "VOD current output is unavailable"

/-- The part of `playback_vod_control_guard` that compares an update with the
old row, with the revision it gives the new one. -/
def playbackVodControlGuardRevision (old new : Control) : Tx Control := do
  let s ← get
  require (new.currentOutput = old.currentOutput || new.currentOutput.isNone ||
      (s.currentOf new).any fun o => o.state = .ready && !o.resourcesCompleted) .PBR04
    "VOD current output cannot revive"
  if new.checkpointSequence ≠ old.checkpointSequence ∨ new.checkpointOutput ≠ old.checkpointOutput ∨
      new.checkpointPosition ≠ old.checkpointPosition then
    if new.currentOutput ≠ old.currentOutput then
      require (new.checkpointSequence = 0) .PBR04 "VOD replacement checkpoint invalid"
    else
      require (old.checkpointSequence < new.checkpointSequence &&
          new.checkpointOutput = new.currentOutput && new.pendingOperation.isNone &&
          (new.state = .ready || new.state = .unavailable)) .PBR04 "VOD checkpoint is stale"
  if new.state ≠ old.state ∨ new.currentOutput ≠ old.currentOutput ∨
      new.pendingOperation ≠ old.pendingOperation ∨ new.recoveryBudget ≠ old.recoveryBudget ∨
      new.playbackState ≠ old.playbackState then
    return { new with revision := old.revision + 1 }
  else
    return new

/-- The part of `playback_vod_control_guard` that counts an encoder being taken. -/
def playbackVodControlGuardCapacity (id : Uuid) : Tx Unit := do
  let s ← get
  let household := (s.reservations.find id).map Reservation.householdId
  let policy := household.bind (playbackVodPolicy s.directory)
  require (policy.any fun p => p.valid && p.supported && p.allowTranscode) .PBR04
    "VOD encoding policy unavailable"
  require (household.all fun h =>
      (policy.bind Policy.transcode).all fun cap => (s.otherEncoders h id : Int) < cap) .PBR03
    "VOD encoded viewer capacity unavailable"

/-- `playback_vod_control_guard`, on an insert without an old row. -/
def playbackVodControlGuard (depth : Nat) (id : Uuid) (old : Option Control) (new : Control) :
    Tx Control := do
  match old with
  | none => require new.initial .PBR04 "VOD control requires initial attribution"
  | some before => require (!before.regresses depth new) .PBR04 "VOD control regression refused"
  playbackVodControlGuardOutputs id new
  let row ←
    match old with
    | none => pure new
    | some before => playbackVodControlGuardRevision before new
  if new.claimEncodes ∧ ¬ old.any Control.claimEncodes then
    playbackVodControlGuardCapacity id
  return row

def defer (event : Deferred) : Tx Unit := modify fun s => { s with deferred := event :: s.deferred }

def insertControl (id : Uuid) (row : Control) : Tx Unit := do
  let row ← playbackVodControlGuard 1 id none row
  require row.checks .checkViolation "playback_vod_controls_check"
  let s ← get
  require (s.controls.find id).isNone .uniqueViolation "playback_vod_controls_pkey"
  require (s.commands.find id).isSome .foreignKeyViolation "playback_vod_controls_reservation_id_fkey"
  modify fun s => { s with controls := s.controls.put id row }
  defer (.control id)

/-- `UPDATE playback_vod_controls SET ... WHERE reservation_id=$1`, at the trigger
depth its guard sees; whether a row was found. -/
def updateControl (depth : Nat) (id : Uuid) (assign : Control → Control) : Tx Bool := do
  match (← get).controls.find id with
  | none => return false
  | some old =>
    let row ← playbackVodControlGuard depth id (some old) (assign old)
    require row.checks .checkViolation "playback_vod_controls_check"
    modify fun s => { s with controls := s.controls.put id row }
    defer (.control id)
    return true

/-! ## Outputs -/

/-- The constraints of `playback_vod_outputs`. -/
def OutputRow.checks (id : Uuid) (o : OutputRow) : Bool :=
  id.extractVersion = some 7 && o.publishedAt.isNone == o.result.isNone &&
    (o.state ≠ .ready || o.publishedAt.isSome) &&
    (o.state ≠ .ready || o.deliveryMode = .directPlay || o.generationId.isSome) &&
    o.resourcesCompleted == o.completedAt.isSome &&
    (o.state = .complete : Bool) == o.resourcesCompleted &&
    (o.deliveryMode ≠ .directPlay || (!o.encodes && o.generationId.isNone))

/-- The unique columns of `playback_vod_outputs`, one output without an operation
for each viewer among them. -/
def Store.outputUnique (s : Store) (id : Uuid) (o : OutputRow) : Bool :=
  !(s.outputs.holds fun other d => other ≠ id &&
    ((o.operationId.isSome && d.operationId = o.operationId) ||
      (o.generationId.isSome && d.generationId = o.generationId) ||
      (o.operationId.isNone && d.operationId.isNone && d.reservationId = o.reservationId)))

/-- Every column but the progress of the output is unchanged. -/
def OutputRow.SameAttribution (old new : OutputRow) : Prop :=
  new = { old with
    state := new.state, result := new.result, failure := new.failure
    publishedAt := new.publishedAt, resourcesCompleted := new.resourcesCompleted
    cleanupUncertain := new.cleanupUncertain, completedAt := new.completedAt }

instance (old new : OutputRow) : Decidable (old.SameAttribution new) :=
  inferInstanceAs (Decidable (_ = _))

/-- `playback_vod_output_guard` on an insert. -/
def playbackVodOutputGuardInsert (id : Uuid) (new : OutputRow) : Tx Unit := do
  let s ← get
  let now ← clockTimestamp
  require ((s.reservations.find new.reservationId).any (fun r => r.state = .held) &&
      new.state = .preparing && !new.resourcesCompleted && new.result.isNone &&
      playbackReceiptTimeError id now s.operationRetention.cutoff = 0)
    .PBR04 "VOD output requires live attribution"

/-- `playback_vod_output_guard` on an update. -/
def playbackVodOutputGuardUpdate (old new : OutputRow) : Tx OutputRow := do
  require (old.SameAttribution new ∧
      ¬(old.result.isSome ∧ (new.result, new.publishedAt) ≠ (old.result, old.publishedAt)) ∧
      ¬(old.resourcesCompleted ∧ ¬new.resourcesCompleted) ∧
      ¬(old.cleanupUncertain ∧ ¬new.cleanupUncertain) ∧
      ¬(old.failure.isSome ∧ new.failure ≠ old.failure) ∧
      ¬((old.state = .retiring ∨ old.state = .complete) ∧
        ¬(new.state = .retiring ∨ new.state = .complete)) ∧
      ¬(old.state = .ready ∧ new.state = .preparing) ∧
      ¬(old.completedAt.isSome ∧ new.completedAt ≠ old.completedAt))
    .PBR04 "VOD output attribution is immutable"
  let publishedAt ← stamp (new.result.isSome && old.result.isNone) new.publishedAt
  let completedAt ← stamp (new.resourcesCompleted && !old.resourcesCompleted) new.completedAt
  return { new with publishedAt, completedAt }

/-- `playback_vod_output_guard` on a delete. -/
def playbackVodOutputGuardDelete (id : Uuid) (old : OutputRow) : Tx Unit := do
  let now ← clockTimestamp
  let s ← get
  let prunable := (old.operationId.bind s.operations.find).any fun p => p.pruneAfter.any (· ≤ now)
  let referenced := s.controls.holds fun _ v =>
    v.currentOutput = some id || (old.operationId.isSome && v.pendingOperation = old.operationId)
  require ((s.commands.find old.reservationId).isNone ||
      (old.operationId.isSome && old.resourcesCompleted && prunable && !referenced))
    .PBR04 "VOD output deletion refused"

def insertOutputRow (id : Uuid) (row : OutputRow) : Tx Unit := do
  playbackVodOutputGuardInsert id row
  require (row.checks id) .checkViolation "playback_vod_outputs_check"
  let s ← get
  require ((s.outputs.find id).isNone && s.outputUnique id row) .uniqueViolation
    "playback_vod_outputs_pkey"
  require (s.commands.find row.reservationId).isSome .foreignKeyViolation
    "playback_vod_outputs_reservation_id_fkey"
  modify fun s => { s with outputs := s.outputs.put id row }
  defer (.output row.reservationId id)

/-- `UPDATE playback_vod_outputs SET ... WHERE id=$1 AND ...`; whether a row was
changed. -/
def updateOutput (id : Uuid) (chosen : OutputRow → Bool) (assign : OutputRow → OutputRow) :
    Tx Bool := do
  match (← get).outputs.find id with
  | none => return false
  | some old =>
    if chosen old then
      let row ← playbackVodOutputGuardUpdate old (assign old)
      require (row.checks id) .checkViolation "playback_vod_outputs_check"
      modify fun s => { s with outputs := s.outputs.put id row }
      defer (.output row.reservationId id)
      return true
    else
      return false

/-- `DELETE FROM playback_vod_outputs WHERE ...`, on one row of it. -/
def deleteOutput (id : Uuid) : Tx Unit := do
  match (← get).outputs.find id with
  | none => return
  | some old =>
    playbackVodOutputGuardDelete id old
    modify fun s => { s with outputs := s.outputs.remove id }

/-! ## Operations -/

/-- The constraints of `playback_vod_operations`. -/
def Operation.checks (id : Uuid) (p : Operation) : Bool :=
  id.extractVersion = some 7 && 1 ≤ p.condition.utf8ByteSize && p.condition.utf8ByteSize ≤ 128 &&
    p.state.terminal == p.terminalAt.isSome &&
    (p.terminalAt.isSome && p.cleanupAt.isSome) == p.pruneAfter.isSome

/-- The index `playback_vod_operation_pending`: one operation of a viewer at a
time is not terminal. -/
def Store.operationUnique (s : Store) (id : Uuid) (p : Operation) : Bool :=
  p.state.terminal || !(s.operations.holds fun other d =>
    other ≠ id && d.reservationId = p.reservationId && !d.state.terminal)

/-- Every column but the progress of the operation is unchanged. -/
def Operation.SameAttribution (old new : Operation) : Prop :=
  new = { old with
    state := new.state, result := new.result, terminalAt := new.terminalAt
    cleanupAt := new.cleanupAt, pruneAfter := new.pruneAfter }

instance (old new : Operation) : Decidable (old.SameAttribution new) :=
  inferInstanceAs (Decidable (_ = _))

/-- `playback_vod_operation_retention_guard`. -/
def playbackVodOperationRetentionGuard (depth : Nat) (old new : OperationRetention) : Tx Unit :=
  require (old.cutoff ≤ new.cutoff ∧ (new.retainedCount = old.retainedCount ∨
      depth = 2 ∧ (new.retainedCount - old.retainedCount).natAbs = 1))
    .PBR04 "VOD operation retention mutation refused"

/-- `UPDATE playback_vod_operation_retention SET ... WHERE id`. -/
def updateOperationRetention (depth : Nat) (assign : OperationRetention → OperationRetention) :
    Tx Unit := do
  let old := (← get).operationRetention
  playbackVodOperationRetentionGuard depth old (assign old)
  require (0 ≤ (assign old).retainedCount ∧ (assign old).retainedCount ≤ 131072) .checkViolation
    "playback_vod_operation_retention_retained_count_check"
  modify fun s => { s with operationRetention := assign old }

/-- What `playback_vod_operation_guard` raises for a request time. -/
def refuseOperationTiming (timing : Nat) : Tx Unit := do
  require (timing ≠ 1) .PBR01 "VOD operation expired"
  require (timing ≠ 2) .PBR02 "VOD operation time unavailable"
  require (timing = 0) .PBR04 "VOD operation identity conflicts"

/-- `playback_vod_operation_guard` on an insert. -/
def playbackVodOperationGuardInsert (id : Uuid) (new : Operation) : Tx Operation := do
  let s ← get
  require ((s.reservations.find new.reservationId).any (fun r =>
        r.householdId = new.householdId && r.state = .held) &&
      (s.commands.find new.reservationId).any (fun c => c.protocol = 2 && c.history.isSome) &&
      new.state = .accepted && new.terminalAt.isNone && new.cleanupAt.isNone &&
      new.pruneAfter.isNone && new.result.isNone)
    .PBR04 "VOD operation requires established attribution"
  match s.controls.find new.reservationId with
  | none => throw (.database .noDataFound "query returned no rows")
  | some v =>
    require (v.currentOutput = some new.expectedOutput && v.pendingOperation.isNone &&
        (v.state = .ready || v.state = .unavailable))
      .PBR04 "VOD operation context changed"
    let now ← clockTimestamp
    refuseOperationTiming (playbackReceiptTimeError id now s.operationRetention.cutoff)
    let householdTotal := s.operations.count fun _ p => p.householdId = new.householdId
    require (v.retainedOperations < 256 && householdTotal < 8192 &&
        s.operationRetention.retainedCount < 131072)
      .PBR03 "VOD operation capacity unavailable"
    let observedAt ← clockTimestamp
    updateOperationRetention 1 fun r =>
      { r with cutoff := max r.cutoff (observedAt.truncate - 5 * minute) }
    let createdAt ← clockTimestamp
    return { new with createdAt }

/-- `playback_vod_operation_guard` on an update. -/
def playbackVodOperationGuardUpdate (id : Uuid) (old new : Operation) : Tx Operation := do
  require (old.SameAttribution new ∧
      ¬(old.terminalAt.isSome ∧ (new.state, new.terminalAt, new.result) ≠
        (old.state, old.terminalAt, old.result)) ∧
      ¬(old.cleanupAt.isSome ∧ new.cleanupAt ≠ old.cleanupAt) ∧
      ¬(old.state = .uncertain ∧ new.state ≠ .uncertain ∧ new.state ≠ .cancelled) ∧
      ¬((old.state = .retiring ∨ old.state = .preparing) ∧ new.state = .accepted) ∧
      ¬(old.state = .preparing ∧ new.state = .retiring))
    .PBR04 "VOD operation regression refused"
  let terminalAt ← stamp (new.state.terminal && old.terminalAt.isNone) new.terminalAt
  require (new.cleanupAt.isNone || !((← get).outputs.holds fun _ o =>
      o.operationId = some id && !o.resourcesCompleted))
    .PBR04 "VOD output completion unavailable"
  let cleanupAt ← stamp (new.cleanupAt.isSome && old.cleanupAt.isNone) new.cleanupAt
  let pruneAfter :=
    match terminalAt, cleanupAt with
    | some ended, some cleaned => some (max ended cleaned + 24 * hour)
    | _, _ => none
  return { new with terminalAt, cleanupAt, pruneAfter }

/-- `playback_vod_operation_guard` on a delete. -/
def playbackVodOperationGuardDelete (id : Uuid) (old : Operation) : Tx Unit := do
  let now ← clockTimestamp
  let s ← get
  require (old.pruneAfter.any (· ≤ now) &&
      !(s.outputs.holds fun _ o => o.operationId = some id) &&
      !(s.controls.holds fun _ v => v.pendingOperation = some id))
    .PBR04 "VOD operation deletion refused"
  require (¬ id.extractTimestamp.any (· ≥ s.operationRetention.cutoff)) .PBR04
    "VOD operation replay fence unavailable"

/-- `playback_vod_operation_account`. -/
def playbackVodOperationAccount (change : Int) (viewer : Uuid) : Tx Unit := do
  updateOperationRetention 2 fun r => { r with retainedCount := r.retainedCount + change }
  let found ← updateControl 2 viewer fun v =>
    { v with retainedOperations := v.retainedOperations + change }
  require found .PBR04 "VOD operation counter unavailable"

def insertOperation (id : Uuid) (row : Operation) : Tx Unit := do
  let row ← playbackVodOperationGuardInsert id row
  require (row.checks id) .checkViolation "playback_vod_operations_check"
  let s ← get
  require ((s.operations.find id).isNone && s.operationUnique id row) .uniqueViolation
    "playback_vod_operations_pkey"
  modify fun s => { s with operations := s.operations.put id row }
  playbackVodOperationAccount 1 row.reservationId
  defer (.operation row.reservationId id)

/-- `UPDATE playback_vod_operations SET ... WHERE id=$1 AND ...`. -/
def updateOperation (id : Uuid) (chosen : Operation → Bool) (assign : Operation → Operation) :
    Tx Unit := do
  match (← get).operations.find id with
  | none => return
  | some old =>
    if chosen old then
      let row ← playbackVodOperationGuardUpdate id old (assign old)
      require (row.checks id) .checkViolation "playback_vod_operations_check"
      require ((← get).operationUnique id row) .uniqueViolation "playback_vod_operation_pending"
      modify fun s => { s with operations := s.operations.put id row }
      defer (.operation row.reservationId id)

/-- `DELETE FROM playback_vod_operations WHERE id=$1`. -/
def deleteOperation (id : Uuid) : Tx Unit := do
  match (← get).operations.find id with
  | none => return
  | some old =>
    playbackVodOperationGuardDelete id old
    modify fun s => { s with operations := s.operations.remove id }
    playbackVodOperationAccount (-1) old.reservationId

/-- `playback_vod_complete_outputs`. -/
def playbackVodCompleteOutputs (viewer : Uuid) : Tx Unit := do
  let s ← get
  forEach (fun id => do
      let _ ← updateOutput id (fun o => !o.resourcesCompleted) fun o =>
        { o with state := .complete, resourcesCompleted := true })
    (s.outputs.select fun _ o => o.reservationId = viewer && !o.resourcesCompleted)
  forEach (fun id => do
      let now ← clockTimestamp
      updateOperation id (fun _ => true) fun p =>
        { p with
          state := if p.terminalAt.isNone then .cancelled else p.state
          cleanupAt := some (p.cleanupAt.getD now) })
    (s.operations.select fun _ p => p.reservationId = viewer)
  let _ ← updateControl 1 viewer fun v =>
    { v with state := .retiring, pendingOperation := none, claimEncodes := false }

/-! ## Deferred constraints -/

/-- `playback_start_promotion_complete`. -/
def playbackStartPromotionComplete (s : Store) (id : Uuid) (kind : Kind) : Bool :=
  match s.intents.find id with
  | none => true
  | some i => i.promoted && i.preparationComplete && kind = .vod &&
      (s.commands.find id).any fun c => i.intentHash = some c.intentHash && c.protocol = 2

/-- `playback_vod_graph_guard` on an output. -/
def playbackVodGraphGuardOutput (s : Store) (v : Control) (root : Command) (id : Uuid) : Bool :=
  (s.outputs.find id).all fun o =>
    o.sourceHash = root.sourceHash && o.source4k = root.source4k &&
      (!o.encodes || o.resourcesCompleted || v.claimEncodes) &&
      o.operationId.all fun operation =>
        (s.operations.find operation).any fun p =>
          p.reservationId = o.reservationId && p.candidateOutput = id

/-- `playback_vod_graph_guard` on an operation. -/
def playbackVodGraphGuardOperation (s : Store) (v : Control) (id : Uuid) : Bool :=
  (s.operations.find id).all fun p =>
    (s.outputs.find p.candidateOutput).any fun o =>
      o.operationId = some id && o.reservationId = p.reservationId &&
        (p.terminalAt.isSome || (v.pendingOperation = some id &&
          (v.state = .changing || v.state = .uncertain || v.state = .retiring))) &&
        (p.terminalAt.isNone || v.pendingOperation ≠ some id) &&
        (p.state ≠ .completed || (o.publishedAt.isSome && p.result = o.result))

/-- `playback_vod_graph_guard` on a control. -/
def playbackVodGraphGuardControl (s : Store) (v : Control) (id : Uuid) : Bool :=
  (v.currentOutput.isSome || !(s.reservations.find id).any (fun r => r.state ≠ .released)) &&
    v.pendingOperation.all (fun operation =>
      (s.operations.find operation).any fun p => p.reservationId = id && p.terminalAt.isNone) &&
    (v.claimEncodes || !s.owesEncoder id)

/-- `playback_vod_graph_guard`: a viewer whose command is gone has nothing left to
guard, one whose control alone is gone is refused. -/
def playbackVodGraphGuard (s : Store) (viewer : Uuid)
    (guard : Store → Control → Command → Bool) : Bool :=
  match s.controls.find viewer, s.commands.find viewer with
  | none, command => command.isNone
  | some _, none => false
  | some v, some root => guard s v root

/-- A queued constraint trigger, on the store at COMMIT. -/
def Deferred.satisfied (s : Store) : Deferred → Bool
  | .promotion id kind => playbackStartPromotionComplete s id kind
  | .control viewer =>
    playbackVodGraphGuard s viewer fun s v _ => playbackVodGraphGuardControl s v viewer
  | .output viewer id =>
    playbackVodGraphGuard s viewer fun s v root => playbackVodGraphGuardOutput s v root id
  | .operation viewer id =>
    playbackVodGraphGuard s viewer fun s v _ => playbackVodGraphGuardOperation s v id

/-- The deferred foreign keys between controls, outputs and operations. -/
def Store.foreignKeys (s : Store) : Bool :=
  !(s.outputs.holds fun _ o => o.operationId.any fun p => (s.operations.find p).isNone) &&
    !(s.controls.holds fun id v =>
      v.currentOutput.any (fun output => !(s.outputs.find output).any fun o => o.reservationId = id) ||
        v.pendingOperation.any fun operation =>
          !(s.operations.find operation).any fun p => p.reservationId = id) &&
    !(s.operations.holds fun _ p =>
      !(s.outputs.find p.candidateOutput).any fun o => o.reservationId = p.reservationId)

/-- COMMIT: the queued triggers and the deferred foreign keys hold, or the outcome
is indeterminate to the caller and nothing is kept. -/
def commit : Tx Unit := do
  let s ← get
  expect (s.foreignKeys && s.deferred.all (Deferred.satisfied s)) .indeterminate
  modify fun s => { s with deferred := [] }

/-- `database::transaction`. -/
def transaction {α : Type} (action : Tx α) : Tx α := do
  let value ← action
  commit
  return value

end Duskcue.Playback
