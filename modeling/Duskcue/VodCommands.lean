import Duskcue.AdmissionLedger

/-! The transactions of `domains/playback/commands`: settlement of starts, the
viewer's set-up, publication and cleanup, and control operations. A
transaction whose caller has already checked the actor takes the outcome of
that check as an input; the play history it writes in passing belongs to
another domain. -/
namespace Duskcue.Playback
open Transaction

/-! ## Actor context -/

/-- `database::context`: the profile revision of an authorised actor. -/
def rootContext (scope : Scope) (session : Except AdmissionError Int) : Tx Int := do
  expect (scope.transport ≠ .legacy) .authority
  requireHousehold scope.user
  liftExcept (session.mapError .refused)

/-- `database::cleanup_context`. -/
def cleanupContext (scope : Scope) (valid : Bool) : Tx Unit := do
  requireHousehold scope.user
  expect (valid && scope.transport ≠ .legacy) .authority

/-- `database::read_scoped`: the reservation joined with its command. -/
def Store.command (s : Store) (id : Uuid) (user : Option Uuid) : Option (Reservation × Command) := do
  let r ← s.reservations.find id
  let c ← s.commands.find id
  if user.all (r.householdId = ·) then some (r, c) else none

/-- `database::actor`. -/
def commandActor (id : Uuid) (row : Reservation) (scope : Scope) (revision : Int) (cleanup : Bool) :
    Tx Request := do
  let request ← liftExcept (Request.decode id row.fingerprint)
  expect (request.actor.user = scope.user && request.actor.session = scope.session &&
    request.actor.version = scope.version && request.actor.transport = scope.transport &&
    (cleanup || (request.actor.profile = scope.profile && request.profileRevision = revision)))
    .conflict
  return request

/-! ## Start settlement -/

/-- `settlement::database::compatible`. -/
def compatible : Tx Unit := do
  expect (!((← get).instances.holds fun _ i => i.startIntentProtocol ≠ 2 && i.reconciledAt.isNone))
    .closed

/-- `settlement::database::actor`. -/
def intentActor (row : StartIntent) (scope : Scope) : Tx Unit := do
  let transport ← liftExcept scope.transport.code
  expect (row.householdId = scope.user && row.sessionId = scope.session &&
    row.credentialVersion = scope.version && row.transport = transport) .conflict

/-- A start intent as its insert statements write it. -/
def newIntent (instanceId : Uuid) (scope : Scope) (transport : Nat) : StartIntent where
  householdId := scope.user
  sessionId := scope.session
  credentialVersion := scope.version
  transport := transport
  profileId := none
  profileRevision := none
  intentHash := none
  instanceId := instanceId
  admissionFenced := false
  preparationComplete := false
  promoted := false
  createdAt := 0
  admissionDeadline := 0
  settledAt := none
  pruneAfter := none

/-- `settlement::database::register`. -/
def registerIntent (instanceId : Uuid) (scope : Scope) (session : Except AdmissionError Int)
    (id : Uuid) (hash : Hash) : Tx Bool := transaction do
  expect ((← get).instances.find instanceId |>.any fun i => !i.fenced && i.startIntentProtocol = 2)
    .closed
  let revision ← rootContext scope session
  compatible
  match (← get).intents.find id with
  | some saved =>
    intentActor saved scope
    expect (saved.intentHash = some hash && saved.profileId = some scope.profile &&
      saved.profileRevision = some revision) .conflict
    return false
  | none =>
    let transport ← liftExcept scope.transport.code
    insertIntent id { newIntent instanceId scope transport with
      profileId := some scope.profile, profileRevision := some revision, intentHash := some hash }
    return true

/-- `settlement::database::complete`. -/
def completeIntent (instanceId : Uuid) (scope : Scope) (id : Uuid) (fence : Bool) : Tx Unit :=
  transaction do
    let saved ← present ((← get).intents.find id) .conflict
    intentActor saved scope
    expect (saved.instanceId = instanceId) .conflict
    updateIntent id fun i =>
      { i with preparationComplete := true, admissionFenced := i.admissionFenced || fence }

inductive SettlementStatus
  | pending | uncertain | settled
  deriving DecidableEq

/-- `SettlementResponse`. -/
structure SettlementResponse where
  requestId : Uuid
  status : SettlementStatus
  observedAt : Time
  admissionFenced : Bool
  preparationComplete : Bool
  parentReleased : Option Bool
  deriving DecidableEq

/-- The withdrawal of an identity without an intent: below the raised cutoff
nothing is left to fence. -/
def withdrawUnknown (instanceId : Uuid) (scope : Scope) (id : Uuid) : Tx Unit := do
  let now ← clockTimestamp
  updateRetention 1 (raiseCutoff (now.truncate - 5 * minute))
  match id.extractTimestamp with
  | none => throw (.database .unexpectedNull "unexpected null")
  | some requested =>
    if requested < (← get).retention.cutoff then
      return
    let transport ← liftExcept scope.transport.code
    insertIntent id { newIntent instanceId scope transport with
      admissionFenced := true, preparationComplete := true }

/-- What `inspect` reports of the rows it leaves. -/
def settlementResponse (instanceId : Uuid) (scope : Scope) (id : Uuid) : Tx SettlementResponse := do
  let now ← clockTimestamp
  let s ← get
  match s.intents.find id with
  | some saved =>
    intentActor saved scope
    let parent := (s.reservations.find id).filter fun r => r.householdId = scope.user
    let parentReleased : Option Bool := parent.map fun r => r.state = .released
    let status : SettlementStatus :=
      if saved.settledAt.isSome ∧ parentReleased ≠ some false then .settled
      else if saved.instanceId ≠ instanceId ∧ (¬saved.preparationComplete ∨ saved.promoted) then
        .uncertain
      else .pending
    return ⟨id, status, now, saved.admissionFenced, saved.preparationComplete, parentReleased⟩
  | none =>
    match id.extractTimestamp with
    | none => throw (.database .unexpectedNull "unexpected null")
    | some requested =>
      if requested < s.retention.cutoff then
        return ⟨id, .settled, now, true, true, none⟩
      else
        return ⟨id, .pending, now, false, false, none⟩

/-- The intent `inspect` reports on: its actor's, or for a withdrawal a new one. -/
def inspectedIntent (instanceId : Uuid) (scope : Scope) (id : Uuid) (withdraw : Bool) : Tx Unit := do
  let s ← get
  match s.intents.find id with
  | none =>
    expect (s.reservations.find id).isNone .conflict
    if withdraw then
      withdrawUnknown instanceId scope id
  | some saved => intentActor saved scope

/-- The rows a withdrawal fences and retires. -/
def withdrawKnown (scope : Scope) (id : Uuid) : Tx Unit := do
  if (← get).intents.find id |>.any fun i => i.householdId = scope.user then
    updateIntent id fun i => { i with admissionFenced := true }
  if (← get).reservations.find id |>.any fun r => r.householdId = scope.user then
    retireReservation id

/-- `settlement::service::inspect`. A wrong version is `CommandError::Invalid`,
which `requestTime` becomes. -/
def inspect (instanceId : Uuid) (scope : Scope) (valid : Bool) (id : Uuid) (withdraw : Bool) :
    Tx SettlementResponse := transaction do
  expect (id.versionNum = 7) .requestTime
  cleanupContext scope valid
  compatible
  inspectedIntent instanceId scope id withdraw
  if withdraw then
    withdrawKnown scope id
  settlementResponse instanceId scope id

/-! ## The viewer's outputs -/

/-- The process's own `Output`, with what its preparation resolved. -/
structure Output where
  id : Uuid
  operation : Option Uuid
  generation : Option Uuid
  binding : Binding
  position : Int
  recovery : Option String
  configuration : String
  mediaItemId : Uuid
  mediaFileId : Uuid
  audioStreamIndex : Option Int
  subtitleStreamIndex : Option Int
  playbackMode : String

/-- `Output::insert`. -/
def Output.insert (o : Output) (viewer : Uuid) : Tx Unit :=
  insertOutputRow o.id {
    reservationId := viewer, operationId := o.operation, generationId := o.generation
    sourceHash := o.binding.source, policyHash := o.binding.policy, deliveryMode := o.binding.mode
    encodes := o.binding.encodes, source4k := o.binding.source4k, configuration := o.configuration
    state := .preparing, result := none, failure := none, publishedAt := none
    resourcesCompleted := false, cleanupUncertain := false, completedAt := none }

/-- The set-up of `Viewer::run`. -/
def setup (instanceId : Uuid) (request : Request) (binding : Option Binding) (authority : Authority)
    (output : Output) : Tx Unit := activeSql instanceId request binding authority do
  output.insert request.id
  insertControl request.id {
    revision := 1, state := .preparing, currentOutput := some output.id, pendingOperation := none
    claimEncodes := output.binding.encodes, recoveryBudget := .initial, checkpointOutput := none
    checkpointSequence := 0, checkpointPosition := none, playbackState := .playing
    retainedOperations := 0 }

/-- What a publication learns outside the store: whether the source is still the
prepared one and the viewer active, whether a reconfiguration stays within the
policy's resolution and bandwidth, the play session it writes, and the offset of
a started encode. -/
structure Publication where
  sourceMatches : Bool
  withinLimits : Bool
  history : Uuid
  started : Time
  playing : Bool
  offset : Option Int

/-- What a publication asks of the operation, or of a first output. -/
def publishable (request : Request) (output : Output) (evidence : Publication) (control : Control)
    (command : Command) : Tx Unit := do
  match output.operation with
  | some id =>
    let operation ← present ((← get).operations.find id) .storage
    expect (control.pendingOperation = some id && operation.candidateOutput = output.id &&
      operation.state = .preparing) .retired
    if operation.action = .reconfigure then
      let policy ← vodPolicy request.actor.user
      expect (policy.permits output.binding.mode output.binding.encodes output.binding.source4k &&
        evidence.withinLimits) .policy
  | none => expect (control.state = .preparing && command.history.isNone) .retired

/-- The published document. -/
def Output.ready (o : Output) (history : Uuid) (offset : Option Int) : Outcome :=
  .ready {
    outputRevision := some o.id, positionMs := some o.position, recovery := o.recovery
    sessionId := history, mediaItemId := o.mediaItemId, mediaFileId := o.mediaFileId
    deliveryMode := o.binding.mode, audioStreamIndex := o.audioStreamIndex
    subtitleStreamIndex := o.subtitleStreamIndex, playbackMode := o.playbackMode
    streamOffsetMs := offset }

/-- The play session a publication writes: the command's, or for a first output a
new one. -/
def publicationHistory (command : Command) (output : Output) (evidence : Publication) :
    Option (Uuid × Time) :=
  match command.history, output.operation with
  | some history, _ => some history
  | none, none => some (evidence.history, evidence.started)
  | none, some _ => none

/-- The publication of `Output::prepare_output`. -/
def publish (instanceId : Uuid) (request : Request) (binding : Option Binding) (authority : Authority)
    (output : Output) (evidence : Publication) : Tx Unit :=
  activeSql instanceId request binding authority do
    let control ← present ((← get).controls.find request.id) .indeterminate
    let (_, command) ← present ((← get).command request.id none) .storage
    expect evidence.sourceMatches .retired
    publishable request output evidence control command
    let (history, started) ← present (publicationHistory command output evidence) .storage
    let result := output.ready history evidence.offset
    expect evidence.playing .storage
    let published ← updateOutput output.id
      (fun o => o.reservationId = request.id && o.state = .preparing && !o.resourcesCompleted)
      fun o => { o with state := .ready, result := some result }
    expect published .retired
    match output.operation with
    | some id =>
      updateOperation id (fun p => p.state = .preparing) fun p =>
        { p with state := .completed, result := some result }
    | none =>
      if command.state = .preparing then
        updateCommand request.id fun c =>
          { c with
            state := .ready, history := some (history, started), generationId := output.generation
            result := some result }
    let _ ← updateControl 1 request.id fun v =>
      { v with
        state := .ready, currentOutput := some output.id, pendingOperation := none
        claimEncodes := output.binding.encodes, checkpointOutput := none, checkpointSequence := 0
        checkpointPosition := none }

/-- `database::failed`. -/
def failed (viewer : Uuid) : Tx Unit := transaction do
  if (← get).commands.find viewer |>.any fun c => c.state = .preparing || c.state = .ready then
    updateCommand viewer fun c => { c with state := .failed }

/-- The mark `Viewer::run` leaves when its current output stopped on its own. -/
def unavailable (instanceId : Uuid) (request : Request) (binding : Option Binding)
    (authority : Authority) (current : Uuid) : Tx Bool :=
  activeSql instanceId request binding authority do
    let control ← present ((← get).controls.find request.id) .indeterminate
    if control.pendingOperation.isSome then
      return false
    expect (control.currentOutput = some current) .conflict
    let _ ← updateControl 1 request.id fun v => { v with state := .unavailable }
    return true

/-- `Output::clean` when the resources could not be confirmed gone. -/
def cleanUncertain (viewer output : Uuid) : Tx Unit := transaction do
  let _ ← present ((← get).command viewer none) .storage
  let _ ← updateOutput output (fun o => o.reservationId = viewer) fun o =>
    { o with cleanupUncertain := true }

/-- `Output::clean` of completed resources. -/
def clean (viewer output : Uuid) (operation : Option Uuid) (failure : Option String) : Tx Unit :=
  transaction do
    let _ ← present ((← get).command viewer none) .storage
    let _ ← updateOutput output (fun o => o.reservationId = viewer) fun o =>
      { o with state := .complete, resourcesCompleted := true, failure := o.failure <|> failure }
    match operation with
    | none => pure ()
    | some id =>
      let now ← clockTimestamp
      updateOperation id (fun p => p.reservationId = viewer) fun p =>
        { p with cleanupAt := some (p.cleanupAt.getD now) }

/-- `Viewer::cleanup`, after its outputs are cleaned. -/
def cleanup (viewer : Uuid) : Tx Unit := transaction do
  let _ ← present ((← get).command viewer none) .storage
  playbackVodCompleteOutputs viewer
  updateCommand viewer fun c =>
    { c with
      resourcesCompleted := true
      state := if c.state = .preparing ∨ c.state = .ready then .stopping else c.state }

/-- The mark `Viewer::run` leaves when cleanup has to be retried. -/
def cleanupUncertain (viewer : Uuid) : Tx Unit := transaction do
  if (← get).commands.find viewer |>.any fun c => !c.resourcesCompleted then
    updateCommand viewer fun c => { c with cleanupUncertain := true }

/-- The transaction of `service::stop`. -/
def stop (scope : Scope) (valid : Bool) (id : Uuid) : Tx Time := transaction do
  cleanupContext scope valid
  let (row, _) ← present ((← get).command id (some scope.user)) .conflict
  let _ ← commandActor id row scope 0 true
  retireReservation id
  if (← get).commands.find id |>.any fun c => c.state = .preparing || c.state = .ready then
    updateCommand id fun c => { c with state := .stopping }
  clockTimestamp

/-! ## Control operations -/

/-- `ConfigurationResponse`, the document an ETag digests. -/
structure ConfigurationResponse where
  requestId : Uuid
  revision : Int
  state : ControlState
  outputRevision : Uuid
  pendingOperation : Option Uuid
  configuration : String
  playbackState : PlaybackState
  recoveryBudget : RecoveryBudget
  recoveryOffer : Option String
  workerRecovery : Bool
  deriving DecidableEq

/-- What the process knows of its current output: whether it is published, active
and usable, the fallback it offers and whether its worker can recover. -/
structure LocalOutput where
  id : Uuid
  usable : Bool
  recoveryOffer : Option String
  workerRecovery : Bool

/-- `projection::configuration`. -/
def configuration (viewer : Uuid) (control : Control) (id : Uuid) (row : OutputRow)
    (current : LocalOutput) : Option ConfigurationResponse :=
  if control.currentOutput ≠ some id ∨ id ≠ current.id then none
  else some {
    requestId := viewer, revision := control.revision
    state := if control.state = .ready ∧ ¬current.usable then .unavailable else control.state
    outputRevision := id, pendingOperation := control.pendingOperation
    configuration := row.configuration, playbackState := control.playbackState
    recoveryBudget := control.recoveryBudget, recoveryOffer := current.recoveryOffer
    workerRecovery := decide (control.checkpointSequence > 0) &&
      decide (control.checkpointOutput = some current.id) && current.workerRecovery }

/-- The ETag of a configuration, given `intent::digest`, which is refused for a
document beyond its size. -/
def etag (digest : ConfigurationResponse → Option String) (value : ConfigurationResponse) :
    Option String := (digest value).map fun hex => "\"vod-config-" ++ hex ++ "\""

/-- `OperationResponse`; an unknown operation has no status. -/
structure OperationResponse where
  requestId : Uuid
  operationId : Uuid
  status : Option OperationState
  outputRevision : Option Uuid
  result : Option Outcome
  cleanupComplete : Bool
  deriving DecidableEq

/-- `projection::operation`. -/
def operationResponse (viewer id : Uuid) (row : Operation) (cleanup : Bool) : OperationResponse where
  requestId := viewer
  operationId := id
  status := some row.state
  outputRevision := if cleanup then none else some row.candidateOutput
  result := if cleanup then none else row.result
  cleanupComplete := row.cleanupAt.isSome

/-- `revisions::missing`. -/
def missingOperation (id : Uuid) : Tx Unit := do
  let now ← clockTimestamp
  let timing := playbackReceiptTimeError id now (← get).operationRetention.cutoff
  expect (timing ≠ 1) .expired
  expect (timing ≠ 2) .requestTime
  expect (timing = 0) .conflict

/-- `revisions::output`. -/
def readOutput (viewer id : Uuid) : Tx OutputRow := do
  present (((← get).outputs.find id).filter fun o => o.reservationId = viewer) .conflict

/-- `control::database::Acceptance`. -/
structure Acceptance where
  operation : Uuid
  expected : Uuid
  hash : Hash
  condition : String
  action : OperationAction
  checkpoint : Option (Int × Int)
  budget : Option RecoveryBudget
  evidence : String
  deriving DecidableEq

/-- What an acceptance learns outside the store. -/
structure Acceptability where
  current : LocalOutput
  active : Bool
  sourceMatches : Bool
  withinLimits : Bool

/-- `accept` on an operation that is there already. -/
def replayAccepted (viewer : Uuid) (input : Acceptance) (row : Operation) :
    Tx (OperationResponse × Bool) := do
  expect (row.reservationId = viewer && row.intentHash = input.hash &&
    row.condition = input.condition) .conflict
  return (operationResponse viewer input.operation row false, false)

/-- What `accept` asks of the control before it writes. -/
def acceptable (digest : ConfigurationResponse → Option String) (request : Request)
    (target : Output) (input : Acceptance) (process : Acceptability) (control : Control) : Tx Unit := do
  expect control.pendingOperation.isNone .pending
  let id ← present control.currentOutput .indeterminate
  let current ← readOutput request.id id
  let value ← present (configuration request.id control id current process.current) .indeterminate
  let tag ← present (etag digest value) .indeterminate
  expect (input.condition = tag) .precondition
  expect (control.currentOutput = some input.expected && process.active &&
    (control.state = .ready || control.state = .unavailable)) .conflict
  expect (input.checkpoint.all fun (sequence, position) => control.checkpointSequence = sequence &&
    control.checkpointOutput = some input.expected && control.checkpointPosition = some position)
    .conflict
  let policy ← vodPolicy request.actor.user
  expect (policy.permits target.binding.mode target.binding.encodes target.binding.source4k &&
    (input.action ≠ .reconfigure || process.withinLimits)) .policy
  expect process.sourceMatches .authority

/-- The operation row `accept` writes. -/
def Acceptance.row (input : Acceptance) (request : Request) (target : Output) : Operation where
  reservationId := request.id
  householdId := request.actor.user
  intentHash := input.hash
  condition := input.condition
  action := input.action
  expectedOutput := input.expected
  candidateOutput := target.id
  evidence := input.evidence
  state := .accepted
  result := none
  createdAt := 0
  terminalAt := none
  cleanupAt := none
  pruneAfter := none

/-- `control::database::accept`; whether the operation is new. -/
def accept (digest : ConfigurationResponse → Option String) (instanceId : Uuid) (request : Request)
    (binding : Option Binding) (authority : Authority) (target : Output) (input : Acceptance)
    (process : Acceptability) : Tx (OperationResponse × Bool) :=
  activeSql instanceId request binding authority do
    let control ← present ((← get).controls.find request.id) .indeterminate
    match (← get).operations.find input.operation with
    | some row => replayAccepted request.id input row
    | none =>
      missingOperation input.operation
      acceptable digest request target input process control
      insertOperation input.operation (input.row request target)
      target.insert request.id
      let _ ← updateControl 1 request.id fun v =>
        { v with
          state := .changing, pendingOperation := some input.operation
          claimEncodes := v.claimEncodes || target.binding.encodes
          recoveryBudget := input.budget.getD v.recoveryBudget }
      let row ← present ((← get).operations.find input.operation) .storage
      return (operationResponse request.id input.operation row false, true)

/-- The second transaction of `control::database::replay`. -/
def replay (scope : Scope) (session : Except AdmissionError Int) (viewer id : Uuid) (hash : Hash)
    (condition : String) : Tx (Option OperationResponse) := transaction do
  let _ ← rootContext scope session
  match (← get).operations.find id with
  | some row =>
    expect (row.reservationId = viewer && row.intentHash = hash && row.condition = condition) .conflict
    return some (operationResponse viewer id row true)
  | none =>
    missingOperation id
    return none

/-- The first transaction of `execute`: the replaced output stops being served. -/
def executeRetiring (instanceId : Uuid) (request : Request) (binding : Option Binding)
    (authority : Authority) (id previous : Uuid) : Tx Unit :=
  activeSql instanceId request binding authority do
    let control ← present ((← get).controls.find request.id) .indeterminate
    expect (control.pendingOperation = some id) .retired
    updateOperation id (fun p => p.state = .accepted) fun p => { p with state := .retiring }
    let _ ← updateOutput previous (fun o => !o.resourcesCompleted) fun o =>
      { o with state := .retiring }

/-- The second transaction of `execute`, after the replaced output is cleaned. -/
def executePreparing (instanceId : Uuid) (request : Request) (binding : Option Binding)
    (authority : Authority) (id : Uuid) : Tx Unit :=
  activeSql instanceId request binding authority do
    updateOperation id (fun p => p.state = .retiring) fun p => { p with state := .preparing }

/-- The failure branch of `execute`: the replaced output is current again. -/
def executeFailed (instanceId : Uuid) (request : Request) (binding : Option Binding)
    (authority : Authority) (id previous : Uuid) (recovery : Option String) : Tx Unit :=
  activeSql instanceId request binding authority do
    let control ← present ((← get).controls.find request.id) .indeterminate
    expect (control.pendingOperation = some id) .retired
    updateOperation id (fun p => p.state = .preparing) fun p =>
      { p with state := .failed, result := some (.replacementFailed recovery) }
    let prior ← readOutput request.id previous
    let _ ← updateControl 1 request.id fun v =>
      { v with state := .unavailable, pendingOperation := none, claimEncodes := prior.encodes }

/-! ## Checkpoints -/

/-- `CheckpointRequest`, with its protocol already checked. -/
structure CheckpointRequest where
  outputRevision : Uuid
  sequence : Int
  positionMs : Int
  playbackState : PlaybackState

/-- What a checkpoint learns outside the store: whether the viewer is active and
its play session still open. -/
structure Checkpointing where
  active : Bool
  sessionOpen : Bool

/-- The transaction of `checkpoint::report`; the control it answers with. -/
def checkpoint (instanceId : Uuid) (request : Request) (binding : Option Binding)
    (authority : Authority) (body : CheckpointRequest) (process : Checkpointing) : Tx Control :=
  activeSql instanceId request binding authority do
    let row ← present ((← get).controls.find request.id) .indeterminate
    expect (row.currentOutput = some body.outputRevision && row.pendingOperation.isNone &&
      (row.state = .ready || row.state = .unavailable) && process.active) .conflict
    if body.sequence = row.checkpointSequence ∧ row.checkpointOutput = some body.outputRevision ∧
        row.checkpointPosition = some body.positionMs ∧ row.playbackState = body.playbackState then
      return row
    expect (row.checkpointSequence < body.sequence) .conflict
    let (_, command) ← present ((← get).command request.id none) .storage
    expect command.history.isSome .retired
    let output ← present (((← get).outputs.find body.outputRevision).filter
      fun o => o.reservationId = request.id) .storage
    expect output.publishedAt.isSome .conflict
    expect process.sessionOpen .retired
    let _ ← updateControl 1 request.id fun v =>
      { v with
        checkpointOutput := some body.outputRevision, checkpointSequence := body.sequence
        checkpointPosition := some body.positionMs, playbackState := body.playbackState }
    present ((← get).controls.find request.id) .indeterminate

end Duskcue.Playback
