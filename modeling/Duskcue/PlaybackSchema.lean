import Duskcue.Table
import Duskcue.Transaction

/-! The rows of the playback admission store, as the migrations declare them, and
the store that holds them. A column with a fixed set of values is an
enumeration, a nullable column an `Option`, and a JSON document the record it
is read into. `clock` is the database clock: `ticks` says how far it moves
before each of the next readings, so readings never go backwards and are
otherwise arbitrary. `deferred` queues the constraint triggers that run at
COMMIT. -/
namespace Duskcue.Playback

/-! ## Identities and time -/

/-- Microseconds since the epoch, the resolution of TIMESTAMPTZ. -/
abbrev Time := Int

def millisecond : Time := 1000
def second : Time := 1000 * millisecond
def minute : Time := 60 * second
def hour : Time := 60 * minute

/-- `date_trunc('milliseconds', ...)`. -/
def Time.truncate (t : Time) : Time := t - t % millisecond

abbrev Uuid := BitVec 128

instance Uuid.decidableMem (id : Uuid) (ids : List Uuid) : Decidable (id ∈ ids) := inferInstance

/-- A SHA-256 digest column. -/
abbrev Hash := BitVec 256

/-- `Uuid::get_version_num`, which reads the version nibble only. -/
def Uuid.versionNum (id : Uuid) : Nat := (id.extractLsb' 76 4).toNat

/-- `uuid_extract_version`: NULL outside the standard variant. -/
def Uuid.extractVersion (id : Uuid) : Option Nat :=
  if id.extractLsb' 62 2 = 2#2 then some id.versionNum else none

/-- `uuid_extract_timestamp` of a version 7 identity; no other version reaches it. -/
def Uuid.extractTimestamp (id : Uuid) : Option Time :=
  if id.extractVersion = some 7 then some (millisecond * (id.extractLsb' 80 48).toNat) else none

/-- A version 7 identity of the given millisecond. -/
def Uuid.v7 (at_ms : Nat) (tail : Nat) : Uuid :=
  BitVec.ofNat 128 (at_ms * 2 ^ 80 + 7 * 2 ^ 76 + 2 * 2 ^ 62 + tail)

/-! ## Errors -/

inductive AdmissionError
  | authority | policy | capacity | expired | requestTime | receiptCapacity | conflict
  | precondition | pending | closed | retired | storage | indeterminate | cleanup
  deriving DecidableEq

inductive SqlState
  | PBR01 | PBR02 | PBR03 | PBR04 | PBR05
  | checkViolation | uniqueViolation | foreignKeyViolation | noDataFound | unexpectedNull
  deriving DecidableEq

/-- What ends a transaction: an error of the server's own, or one the database
raised. -/
inductive Failure
  | refused (error : AdmissionError)
  | database (code : SqlState) (message : String)
  deriving DecidableEq

/-- `From<sqlx::Error> for AdmissionError`. -/
def Failure.answer : Failure → AdmissionError
  | .refused error => error
  | .database .PBR01 _ => .expired
  | .database .PBR02 _ => .requestTime
  | .database .PBR03 _ => .receiptCapacity
  | .database .PBR04 _ => .conflict
  | .database _ _ => .storage

/-! ## Requests -/

inductive CredentialTransport
  | cookie | bearer | legacy
  deriving DecidableEq

structure Scope where
  user : Uuid
  session : Uuid
  profile : Uuid
  version : Int
  transport : CredentialTransport
  deriving DecidableEq

inductive Subject
  | vod (file item : Uuid)
  | live (snapshot channel : Uuid)
  deriving DecidableEq

structure Request where
  id : Uuid
  actor : Scope
  profileRevision : Int
  subject : Subject
  deriving DecidableEq

/-- The JSON document stored as a reservation's fingerprint. -/
structure Fingerprint where
  user : Uuid
  session : Uuid
  profile : Uuid
  version : Int
  profileRevision : Int
  transport : Nat
  subject : Subject
  deriving DecidableEq

def CredentialTransport.code : CredentialTransport → Except Failure Nat
  | .cookie => .ok 0
  | .bearer => .ok 1
  | .legacy => .error (.refused .authority)

/-- `Request::encode`. Every field has bounded text, so the document stays below
its 2048 bytes. -/
def Request.encode (r : Request) : Except Failure Fingerprint :=
  if r.id.versionNum ≠ 7 ∨ r.actor.version ≤ 0 ∨ r.profileRevision ≤ 0 then
    .error (.refused .authority)
  else
    match r.actor.transport.code with
    | .error failure => .error failure
    | .ok transport =>
      .ok {
        user := r.actor.user, session := r.actor.session, profile := r.actor.profile
        version := r.actor.version, profileRevision := r.profileRevision
        transport, subject := r.subject }

/-- `Request::decode`: the document has to be the encoding of what it decodes to. -/
def Request.decode (id : Uuid) (f : Fingerprint) : Except Failure Request :=
  let transport : Option CredentialTransport :=
    match f.transport with
    | 0 => some .cookie
    | 1 => some .bearer
    | _ => none
  match transport with
  | none => .error (.refused .authority)
  | some transport =>
    let request : Request := {
      id, subject := f.subject, profileRevision := f.profileRevision
      actor := { user := f.user, session := f.session, profile := f.profile, version := f.version, transport } }
    match request.encode with
    | .error failure => .error failure
    | .ok encoded => if encoded = f then .ok request else .error (.refused .authority)

/-! ## Directory rows the store reads -/

structure User where
  maxStreams : Option Int
  maxTranscodeStreams : Option Int
  bandwidthLimitBps : Option Int
  streamingPolicyId : Option Uuid

structure StreamingPolicy where
  maxStreams : Option Int
  maxTranscodeStreams : Option Int
  bandwidthLimitBps : Option Int
  allowDirectPlay : Bool
  allowDirectStream : Bool
  allowTranscode : Bool
  maxTranscodeResolution : Option String
  allowTranscode4k : Bool
  requireDirectPlay4k : Bool
  allowedIpRanges : List String
  blockedIpRanges : List String
  autoTerminatePausedMinutes : Option Int
  isDefault : Bool

/-- A household's live assignment; `household_user_id` is unique and is its key. -/
structure LiveAssignment where
  id : Uuid
  maxLiveStreams : Option Int
  ownerMaxLiveStreams : Option Int

structure Directory where
  users : Table Uuid User
  streamingPolicies : Table Uuid StreamingPolicy
  liveAssignments : Table Uuid LiveAssignment

/-! ## Admission rows -/

/-- `playback_instances`. -/
structure Instance where
  revision : Int
  fenced : Bool
  createdAt : Time
  fencedAt : Option Time
  reconciledAt : Option Time
  startIntentProtocol : Nat
  deriving DecidableEq

inductive Kind
  | vod | live
  deriving DecidableEq

inductive ReservationState
  | held | retiring | released
  deriving DecidableEq

/-- `playback_reservations`. -/
structure Reservation where
  instanceId : Uuid
  householdId : Uuid
  fingerprint : Fingerprint
  kind : Kind
  assignmentId : Option Uuid
  sourceGeneration : Option Int
  channelKey : Option Hash
  state : ReservationState
  deadline : Time
  createdAt : Time
  releasedAt : Option Time
  pruneAfter : Option Time
  deriving DecidableEq

/-- `playback_start_intents`. -/
structure StartIntent where
  householdId : Uuid
  sessionId : Uuid
  credentialVersion : Int
  transport : Nat
  profileId : Option Uuid
  profileRevision : Option Int
  intentHash : Option Hash
  instanceId : Uuid
  admissionFenced : Bool
  preparationComplete : Bool
  promoted : Bool
  createdAt : Time
  admissionDeadline : Time
  settledAt : Option Time
  pruneAfter : Option Time
  deriving DecidableEq

/-- The single row of `playback_retention`. -/
structure Retention where
  cutoff : Time
  retainedCount : Int

inductive OperatorOperation
  | fence | reconcile

/-- `playback_operator_events`. -/
structure OperatorEvent where
  instanceId : Uuid
  revision : Int
  operation : OperatorOperation

/-! ## VOD command rows -/

/-- `vod::Mode`, the column `delivery_mode`. -/
inductive Mode
  | directPlay | directStream | transcode
  deriving DecidableEq

/-- The document a publication stores, `ReadyResponse`. -/
structure ReadyResponse where
  outputRevision : Option Uuid
  positionMs : Option Int
  recovery : Option String
  sessionId : Uuid
  mediaItemId : Uuid
  mediaFileId : Uuid
  deliveryMode : Mode
  audioStreamIndex : Option Int
  subtitleStreamIndex : Option Int
  playbackMode : String
  streamOffsetMs : Option Int
  deriving DecidableEq

/-- The documents the `result` columns hold. -/
inductive Outcome
  | ready (response : ReadyResponse)
  | replacementFailed (recovery : Option String)
  deriving DecidableEq

inductive CommandState
  | preparing | ready | stopping | failed
  deriving DecidableEq

/-- `playback_vod_commands`. -/
structure Command where
  intentHash : Hash
  policyHash : Hash
  sourceHash : Hash
  deliveryMode : Mode
  encodes : Bool
  source4k : Bool
  ambient : Option (Uuid × Time)
  protocol : Nat
  state : CommandState
  history : Option (Uuid × Time)
  generationId : Option Uuid
  result : Option Outcome
  resourcesCompleted : Bool
  cleanupUncertain : Bool
  deriving DecidableEq

inductive ControlState
  | preparing | ready | unavailable | changing | uncertain | retiring
  deriving DecidableEq

inductive PlaybackState
  | playing | paused | buffering
  deriving DecidableEq

structure RecoveryBudget where
  attempts : Int
  restartedStall : Bool
  skippedDecode : Bool
  exhausted : Bool
  deriving DecidableEq

/-- The column default. -/
def RecoveryBudget.initial : RecoveryBudget := ⟨0, false, false, false⟩

/-- `playback_vod_controls`. -/
structure Control where
  revision : Int
  state : ControlState
  currentOutput : Option Uuid
  pendingOperation : Option Uuid
  claimEncodes : Bool
  recoveryBudget : RecoveryBudget
  checkpointOutput : Option Uuid
  checkpointSequence : Int
  checkpointPosition : Option Int
  playbackState : PlaybackState
  retainedOperations : Int

inductive OperationAction
  | seek | reconfigure | recover
  deriving DecidableEq

inductive OperationState
  | accepted | retiring | preparing | completed | failed | cancelled | uncertain
  deriving DecidableEq

/-- `playback_vod_operations`. -/
structure Operation where
  reservationId : Uuid
  householdId : Uuid
  intentHash : Hash
  condition : String
  action : OperationAction
  expectedOutput : Uuid
  candidateOutput : Uuid
  evidence : String
  state : OperationState
  result : Option Outcome
  createdAt : Time
  terminalAt : Option Time
  cleanupAt : Option Time
  pruneAfter : Option Time
  deriving DecidableEq

inductive OutputState
  | preparing | ready | retiring | complete
  deriving DecidableEq

/-- `playback_vod_outputs`. -/
structure OutputRow where
  reservationId : Uuid
  operationId : Option Uuid
  generationId : Option Uuid
  sourceHash : Hash
  policyHash : Hash
  deliveryMode : Mode
  encodes : Bool
  source4k : Bool
  configuration : String
  state : OutputState
  result : Option Outcome
  failure : Option String
  publishedAt : Option Time
  resourcesCompleted : Bool
  cleanupUncertain : Bool
  completedAt : Option Time
  deriving DecidableEq

/-- The single row of `playback_vod_operation_retention`. -/
structure OperationRetention where
  cutoff : Time
  retainedCount : Int
  scan : Option (Time × Uuid)

/-! ## The store -/

/-- A row whose constraint trigger is queued for COMMIT. -/
inductive Deferred
  | promotion (reservation : Uuid) (kind : Kind)
  | control (reservation : Uuid)
  | output (reservation id : Uuid)
  | operation (reservation id : Uuid)

structure Store where
  clock : Time
  ticks : List Nat
  directory : Directory
  instances : Table Uuid Instance
  reservations : Table Uuid Reservation
  intents : Table Uuid StartIntent
  retention : Retention
  households : Table Uuid Int
  commands : Table Uuid Command
  controls : Table Uuid Control
  operations : Table Uuid Operation
  outputs : Table Uuid OutputRow
  operationRetention : OperationRetention
  operatorEvents : List OperatorEvent
  deferred : List Deferred

/-- The store as the migrations leave an empty database at `now`. -/
def Store.migrated (now : Time) : Store where
  clock := now
  ticks := []
  directory := ⟨.empty, .empty, .empty⟩
  instances := .empty
  reservations := .empty
  intents := .empty
  retention := ⟨now.truncate - 5 * minute, 0⟩
  households := .empty
  commands := .empty
  controls := .empty
  operations := .empty
  outputs := .empty
  operationRetention := ⟨now.truncate - 5 * minute, 0, none⟩
  operatorEvents := []
  deferred := []

/-- Statements on the store. -/
abbrev Tx := Transaction Store Failure

/-- `Result<_, AdmissionError>` inside a transaction. -/
def liftExcept {α : Type} : Except Failure α → Tx α
  | .ok value => pure value
  | .error failure => throw failure

/-- The store after one reading of the clock. -/
def Store.tick (s : Store) : Store :=
  { s with clock := s.clock + s.ticks.headD 0, ticks := s.ticks.tail }

/-- `clock_timestamp()`. -/
def clockTimestamp : Tx Time := do
  modify Store.tick
  return (← get).clock

/-- A time column set from the clock, or left as it is. -/
def stamp (fresh : Bool) (value : Option Time) : Tx (Option Time) :=
  if fresh then some <$> clockTimestamp else pure value

/-- Raise a database error unless the condition holds. -/
def require (condition : Bool) (code : SqlState) (message : String) : Tx Unit :=
  Transaction.ensure condition (.database code message)

/-- Answer with an error of the server's own unless the condition holds. -/
def expect (condition : Bool) (error : AdmissionError) : Tx Unit :=
  Transaction.ensure condition (.refused error)

/-- A row that has to be there. -/
def present {α : Type} (value : Option α) (error : AdmissionError) : Tx α :=
  Transaction.demand value (.refused error)

end Duskcue.Playback
