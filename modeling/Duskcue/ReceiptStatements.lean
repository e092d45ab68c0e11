import Duskcue.PlaybackSchema

/-! Statements on the receipt tables with the triggers they fire:
`playback_retention`, `playback_receipt_households`, `playback_start_intents` and
`playback_reservations`. A statement runs its BEFORE triggers on the new row,
checks the row's constraints, writes it, and runs its AFTER triggers. The rows
of one statement do not read each other here, so a statement on several rows
runs row by row. `TRUNCATE` is refused on every table and is not modelled. -/
namespace Duskcue.Playback
open Transaction

/-! ## Request time -/

/-- `playback_receipt_time_error`: 0 for an identity inside its window, 1 below
the floor, 2 ahead of the clock, 3 for no version 7 identity. -/
def playbackReceiptTimeError (id : Uuid) (observedAt floorAt : Time) : Nat :=
  match id.extractTimestamp with
  | none => 3
  | some requested =>
    if requested < max floorAt (observedAt.truncate - 5 * minute) then 1
    else if requested > observedAt.truncate + 2 * minute then 2
    else 0

/-- `greatest(completed+'24 hours', uuid_extract_timestamp(id)+'5 minutes 1 millisecond')`. -/
def pruneTime (id : Uuid) (completed : Time) : Time :=
  match id.extractTimestamp with
  | none => completed + 24 * hour
  | some requested => max (completed + 24 * hour) (requested + 5 * minute + millisecond)

/-- What the insert triggers raise for a request time. -/
def refuseTiming (timing : Nat) : Tx Unit := do
  require (timing ≠ 1) .PBR01 "playback request expired"
  require (timing ≠ 2) .PBR02 "playback request time unavailable"
  require (timing = 0) .PBR04 "playback request identity invalid"

/-! ## Retention and household accounting -/

/-- `playback_retention_protect` on an update at the given trigger depth. -/
def playbackRetentionProtect (depth : Nat) (old new : Retention) : Tx Unit := do
  require (old.cutoff ≤ new.cutoff) .PBR04 "playback retention regression refused"
  require (new.retainedCount = old.retainedCount ∨
      depth = 2 ∧ (new.retainedCount - old.retainedCount).natAbs = 1)
    .PBR05 "playback receipt accounting mutation refused"

/-- `UPDATE playback_retention SET ... WHERE id`. -/
def updateRetention (depth : Nat) (assign : Retention → Retention) : Tx Unit := do
  let old := (← get).retention
  playbackRetentionProtect depth old (assign old)
  require (0 ≤ (assign old).retainedCount) .checkViolation "playback_retention_retained_count_check"
  modify fun s => { s with retention := assign old }

/-- `cutoff=greatest(cutoff, floor)`. -/
def raiseCutoff (floor : Time) (r : Retention) : Retention := { r with cutoff := max r.cutoff floor }

/-- `playback_household_accounting_protect`: a count starts at zero, moves by one
and is dropped at zero, each from inside another trigger. -/
def playbackHouseholdAccountingProtect (depth : Nat) (old new : Option Int) : Tx Unit :=
  let allowed : Bool :=
    match old, new with
    | none, some count => count = 0
    | some count, none => count = 0
    | some before, some after => (after - before).natAbs = 1
    | none, none => true
  require (depth = 2 ∧ allowed) .PBR05 "playback receipt accounting mutation refused"

/-- `INSERT INTO playback_receipt_households(household_id,retained_count) VALUES (household,0)`. -/
def insertHousehold (household : Uuid) : Tx Unit := do
  playbackHouseholdAccountingProtect 2 none (some 0)
  modify fun s => { s with households := s.households.put household 0 }

/-- `UPDATE playback_receipt_households SET retained_count=count`. -/
def updateHousehold (household : Uuid) (old new : Int) : Tx Unit := do
  playbackHouseholdAccountingProtect 2 (some old) (some new)
  require (0 ≤ new) .checkViolation "playback_receipt_households_retained_count_check"
  modify fun s => { s with households := s.households.put household new }

/-- `DELETE FROM playback_receipt_households`: no receipt may still refer to it. -/
def deleteHousehold (household : Uuid) (old : Int) : Tx Unit := do
  playbackHouseholdAccountingProtect 2 (some old) none
  modify fun s => { s with households := s.households.remove household }
  let s ← get
  require (!(s.reservations.holds fun _ r => r.householdId = household) &&
      !(s.intents.holds fun _ i => i.householdId = household))
    .foreignKeyViolation "playback_receipt_household"

inductive ReceiptTable
  | reservations | startIntents
  deriving DecidableEq

/-- `playback_receipt_account` after an insert: an identity whose intent is there
is already counted. -/
def playbackReceiptAccountInsert (table : ReceiptTable) (id household : Uuid) : Tx Unit := do
  let s ← get
  if table = .reservations ∧ (s.intents.find id).isSome then
    return
  require (s.retention.retainedCount < 65536) .PBR05 "playback receipt accounting unavailable"
  updateRetention 2 fun r => { r with retainedCount := r.retainedCount + 1 }
  match s.households.find household with
  | none => throw (.database .PBR05 "playback receipt accounting unavailable")
  | some count =>
    require (count < 4096) .PBR05 "playback receipt accounting unavailable"
    updateHousehold household count (count + 1)

/-- `playback_receipt_account` after a delete. -/
def playbackReceiptAccountDelete (table : ReceiptTable) (id household : Uuid) : Tx Unit := do
  let s ← get
  if table = .reservations ∧ (s.intents.find id).isSome then
    return
  require (s.retention.retainedCount > 0) .PBR05 "playback receipt accounting unavailable"
  updateRetention 2 fun r => { r with retainedCount := r.retainedCount - 1 }
  match s.households.find household with
  | none => throw (.database .PBR05 "playback receipt accounting unavailable")
  | some count =>
    require (count > 0) .PBR05 "playback receipt accounting unavailable"
    updateHousehold household count (count - 1)
    if count - 1 = 0 then
      deleteHousehold household (count - 1)

/-- The part the two insert triggers share: the identity's time, the room left in
total and for the household, and the raised cutoff. -/
def receiveIdentity (id household : Uuid) (retention : Retention) (observedAt : Time) : Tx Unit := do
  refuseTiming (playbackReceiptTimeError id observedAt retention.cutoff)
  require (retention.retainedCount < 65536) .PBR03 "playback receipt capacity unavailable"
  let householdTotal ←
    match (← get).households.find household with
    | some count => pure count
    | none => do
      insertHousehold household
      pure 0
  require (householdTotal < 4096) .PBR03 "playback receipt capacity unavailable"
  updateRetention 1 (raiseCutoff (observedAt - 5 * minute))

/-! ## Start intents -/

/-- The constraints of `playback_start_intents`. -/
def StartIntent.checks (id : Uuid) (i : StartIntent) : Bool :=
  id.extractVersion = some 7 && 0 < i.credentialVersion && i.transport ≤ 1 &&
    i.profileRevision.all (0 < ·) &&
    i.intentHash.isSome == (i.profileId.isSome && i.profileRevision.isSome) &&
    (i.intentHash.isSome || i.admissionFenced) &&
    i.settledAt.isNone == i.pruneAfter.isNone &&
    (i.settledAt.isNone || (i.admissionFenced && i.preparationComplete))

/-- Every column but the progress of the start is unchanged. -/
def StartIntent.SameAttribution (old new : StartIntent) : Prop :=
  new = { old with
    admissionFenced := new.admissionFenced, preparationComplete := new.preparationComplete
    promoted := new.promoted, settledAt := new.settledAt, pruneAfter := new.pruneAfter }

instance (old new : StartIntent) : Decidable (old.SameAttribution new) :=
  inferInstanceAs (Decidable (_ = _))

/-- Whether a reservation of the identity is not released. -/
def Store.unreleased (s : Store) (id : Uuid) : Bool :=
  (s.reservations.find id).any fun r => r.state ≠ .released

/-- `playback_start_intent_insert`. -/
def playbackStartIntentInsert (id : Uuid) (new : StartIntent) : Tx StartIntent := do
  let s ← get
  require (s.reservations.find id).isNone .PBR04 "unregistered playback identity conflicts"
  let observedAt := (← clockTimestamp).truncate
  receiveIdentity id new.householdId s.retention observedAt
  let createdAt ← clockTimestamp
  let settled := new.admissionFenced && new.preparationComplete
  return { new with
    createdAt
    admissionDeadline := createdAt + 60 * second
    settledAt := if settled then some createdAt else none
    pruneAfter := if settled then some (pruneTime id createdAt) else none }

/-- `playback_start_intent_update`. -/
def playbackStartIntentUpdate (id : Uuid) (old new : StartIntent) : Tx StartIntent := do
  require (old.SameAttribution new ∧ ¬(old.admissionFenced ∧ ¬new.admissionFenced) ∧
      ¬(old.preparationComplete ∧ ¬new.preparationComplete) ∧ ¬(old.promoted ∧ ¬new.promoted) ∧
      ¬(old.settledAt.isSome ∧ new.settledAt ≠ old.settledAt))
    .PBR04 "playback intent mutation refused"
  if new.admissionFenced ∧ new.preparationComplete ∧ ¬(← get).unreleased id then
    let now ← clockTimestamp
    let settledAt := old.settledAt.getD now
    return { new with settledAt := some settledAt, pruneAfter := some (pruneTime id settledAt) }
  else
    return { new with settledAt := none, pruneAfter := none }

/-- `playback_start_intent_delete`. -/
def playbackStartIntentDelete (id : Uuid) (old : StartIntent) : Tx Unit := do
  let floorAt := (← get).retention.cutoff
  let now ← clockTimestamp
  require (old.settledAt.isSome ∧ ¬ old.pruneAfter.any (· > now) ∧
      ¬ id.extractTimestamp.any (· ≥ floorAt) ∧ ((← get).reservations.find id).isNone)
    .PBR04 "playback intent deletion refused"

def insertIntent (id : Uuid) (row : StartIntent) : Tx Unit := do
  let row ← playbackStartIntentInsert id row
  require (row.checks id) .checkViolation "playback_start_intents_check"
  let s ← get
  require (s.intents.find id).isNone .uniqueViolation "playback_start_intents_pkey"
  require (s.instances.find row.instanceId).isSome .foreignKeyViolation
    "playback_start_intents_instance_id_fkey"
  modify fun s => { s with intents := s.intents.put id row }
  playbackReceiptAccountInsert .startIntents id row.householdId

/-- `UPDATE playback_start_intents SET ... WHERE id=$1`. -/
def updateIntent (id : Uuid) (assign : StartIntent → StartIntent) : Tx Unit := do
  match (← get).intents.find id with
  | none => return
  | some old =>
    let row ← playbackStartIntentUpdate id old (assign old)
    require (row.checks id) .checkViolation "playback_start_intents_check"
    modify fun s => { s with intents := s.intents.put id row }

/-- `DELETE FROM playback_start_intents WHERE id=$1`. -/
def deleteIntent (id : Uuid) : Tx Unit := do
  match (← get).intents.find id with
  | none => return
  | some old =>
    playbackStartIntentDelete id old
    modify fun s => { s with intents := s.intents.remove id }
    playbackReceiptAccountDelete .startIntents id old.householdId

/-! ## Reservations -/

/-- The constraints of `playback_reservations`. -/
def Reservation.checks (id : Uuid) (r : Reservation) : Bool :=
  id.extractVersion = some 7 &&
    (match r.kind with
    | .vod => r.assignmentId.isNone && r.sourceGeneration.isNone && r.channelKey.isNone
    | .live => r.assignmentId.isSome && r.sourceGeneration.any (0 < ·) && r.channelKey.isSome) &&
    (r.state = .released : Bool) == r.releasedAt.isSome &&
    (r.state = .released : Bool) == r.pruneAfter.isSome

/-- Every column but the progress of the viewer is unchanged. -/
def Reservation.SameAttribution (old new : Reservation) : Prop :=
  new = { old with
    state := new.state, deadline := new.deadline
    releasedAt := new.releasedAt, pruneAfter := new.pruneAfter }

instance (old new : Reservation) : Decidable (old.SameAttribution new) :=
  inferInstanceAs (Decidable (_ = _))

/-- What `playback_receipt_insert` asks of the intent a reservation promotes. -/
def promotable (intent : StartIntent) (new : Reservation) (now : Time) : Bool :=
  intent.householdId = new.householdId && intent.instanceId = new.instanceId &&
    !intent.admissionFenced && !intent.promoted && intent.preparationComplete &&
    intent.admissionDeadline > now && new.fingerprint.session = intent.sessionId &&
    new.fingerprint.version = intent.credentialVersion &&
    new.fingerprint.transport = intent.transport &&
    some new.fingerprint.profile = intent.profileId &&
    some new.fingerprint.profileRevision = intent.profileRevision

/-- The release stamps of a reservation that is, or becomes, released. -/
def stampRelease (id : Uuid) (new : Reservation) (fresh : Bool) : Tx Reservation := do
  if new.state = .released then
    let releasedAt ← stamp fresh new.releasedAt
    return { new with releasedAt, pruneAfter := releasedAt.map (pruneTime id) }
  else
    return { new with pruneAfter := none }

/-- `playback_receipt_insert`. -/
def playbackReceiptInsert (id : Uuid) (new : Reservation) : Tx Reservation := do
  let s ← get
  match s.intents.find id with
  | some intent =>
    let now ← clockTimestamp
    require (promotable intent new now) .PBR04 "playback start fenced"
    updateIntent id fun i => { i with promoted := true }
    return new
  | none =>
    let observedAt := (← clockTimestamp).truncate
    require (s.reservations.find id).isNone .PBR04 "playback request identity conflicts"
    receiveIdentity id new.householdId s.retention observedAt
    stampRelease id new true

/-- `playback_receipt_update`. -/
def playbackReceiptUpdate (id : Uuid) (old new : Reservation) : Tx Reservation := do
  require (old.SameAttribution new ∧ ¬(old.state = .released ∧ new.state ≠ .released) ∧
      ¬(old.state = .retiring ∧ new.state = .held) ∧
      ¬(old.releasedAt.isSome ∧ new.releasedAt ≠ old.releasedAt))
    .PBR04 "playback receipt mutation refused"
  stampRelease id new (old.state ≠ .released)

def OperationState.terminal : OperationState → Bool
  | .completed | .failed | .cancelled => true
  | .accepted | .retiring | .preparing | .uncertain => false

/-- `playback_vod_release_guard`. -/
def playbackVodReleaseGuard (id : Uuid) (new : Reservation) : Tx Unit := do
  let s ← get
  require (¬(new.state = .released ∧
      ((s.outputs.holds fun _ o => o.reservationId = id && !o.resourcesCompleted) ∨
        (s.operations.holds fun _ p => p.reservationId = id && !p.state.terminal))))
    .PBR04 "VOD output obligations remain"

/-- `playback_start_parent_completion`. -/
def playbackStartParentCompletion (id : Uuid) (new : Reservation) : Tx Unit :=
  if new.state = .released then updateIntent id fun i => { i with admissionFenced := true }
  else pure ()

/-- `playback_receipt_delete`. -/
def playbackReceiptDelete (id : Uuid) (old : Reservation) : Tx Unit := do
  let observedAt := (← clockTimestamp).truncate
  let floorAt := (← get).retention.cutoff
  require (old.state = .released ∧ old.releasedAt.any (· + 24 * hour ≤ observedAt) ∧
      old.pruneAfter.any (· ≤ observedAt) ∧ ¬ id.extractTimestamp.any (· ≥ floorAt))
    .PBR04 "playback receipt deletion refused"

/-- `playback_vod_parent_retention_guard`. -/
def playbackVodParentRetentionGuard (id : Uuid) : Tx Unit := do
  require (!((← get).operations.holds fun _ p => p.reservationId = id)) .PBR04
    "VOD operation receipts remain"

def insertReservation (id : Uuid) (row : Reservation) : Tx Unit := do
  let row ← playbackReceiptInsert id row
  require (row.checks id) .checkViolation "playback_reservations_check"
  let s ← get
  require (s.reservations.find id).isNone .uniqueViolation "playback_reservations_pkey"
  require ((s.instances.find row.instanceId).isSome && (s.households.find row.householdId).isSome)
    .foreignKeyViolation "playback_receipt_household"
  modify fun s => { s with
    reservations := s.reservations.put id row
    deferred := .promotion id row.kind :: s.deferred }
  playbackReceiptAccountInsert .reservations id row.householdId

/-- `UPDATE playback_reservations SET ... WHERE id=$1`. -/
def updateReservation (id : Uuid) (assign : Reservation → Reservation) : Tx Unit := do
  match (← get).reservations.find id with
  | none => return
  | some old =>
    let row ← playbackReceiptUpdate id old (assign old)
    playbackVodReleaseGuard id row
    require (row.checks id) .checkViolation "playback_reservations_check"
    modify fun s => { s with reservations := s.reservations.put id row }
    playbackStartParentCompletion id row

/-- `DELETE FROM playback_reservations WHERE id=$1`. The foreign keys delete the
command with its control and outputs, whose own guards let a row without its
parent go; an operation would stop the deletion. -/
def deleteReservation (id : Uuid) : Tx Unit := do
  match (← get).reservations.find id with
  | none => return
  | some old =>
    playbackReceiptDelete id old
    playbackVodParentRetentionGuard id
    modify fun s => { s with
      reservations := s.reservations.remove id
      commands := s.commands.remove id
      controls := s.controls.remove id
      outputs := s.outputs.discard fun _ o => o.reservationId = id }
    playbackReceiptAccountDelete .reservations id old.householdId

/-- `UPDATE playback_reservations SET state='retiring' WHERE id=$1 AND state='held'`. -/
def retireReservation (id : Uuid) : Tx Unit := do
  if (← get).reservations.find id |>.any fun r => r.state = .held then
    updateReservation id fun r => { r with state := .retiring }

/-! ## Trigger-driven retirement -/

/-- `UPDATE playback_reservations SET state='retiring' WHERE state='held' AND ...`. -/
def retireWhere (chosen : Store → Uuid → Reservation → Bool) : Tx Unit := do
  let s ← get
  forEach retireReservation (s.reservations.select fun id r => r.state = .held && chosen s id r)

end Duskcue.Playback
