import Duskcue.VodStatements
import Mathlib.Data.List.Sort

/-! The transactions of `services/playback_admission`: the ledger's claim, check,
retire and prune, the operator's fence and reconcile, and the registration of
an instance. Row locks serialise transactions and read nothing, so a
transaction runs here on its own; rows that `SKIP LOCKED` passes over are an
input. What other domains decide about an actor is an input as well: see
`Authority`. -/
namespace Duskcue.Playback
open Transaction

/-! ## Inputs from other domains -/

/-- What the Live TV catalog resolves for an actor: the source generation and the
channel's key. The assignment is the household's own. -/
structure Viewing where
  generation : Int
  key : Hash

/-- The answers of the domains a transaction asks: whether the actor, session,
profile and subject are authorised, whether the ambient channel of a binding
still offers the item, and the digest of the household's current policy. -/
structure Authority where
  viewing : Except AdmissionError Viewing
  ambientAllowed : Bool
  policyHash : Hash

/-- `vod::Binding`. -/
structure Binding where
  intent : Hash
  policy : Hash
  source : Hash
  mode : Mode
  encodes : Bool
  source4k : Bool
  ambient : Option (Uuid × Time)
  deriving DecidableEq

/-! ## Shared steps -/

/-- `database::instance`. -/
def requireInstance (instanceId : Uuid) (active : Bool) : Tx Unit := do
  expect ((← get).instances.find instanceId |>.any fun i => !i.fenced || !active) .closed

/-- `database::household`. -/
def requireHousehold (user : Uuid) : Tx Unit := do
  expect ((← get).directory.users.find user).isSome .authority

/-- `policy::ceiling` on the rows it reads. -/
def Directory.ceiling (d : Directory) (user : Uuid) : Except Failure (Option Int) :=
  match d.users.find user with
  | none => .error (.database .noDataFound "no rows returned")
  | some u =>
    match d.effectivePolicy u with
    | none => .error (.refused .policy)
    | some p =>
      if limitValid u.maxTranscodeStreams && limitValid u.maxStreams && limitValid p.maxStreams &&
          limitValid p.maxTranscodeStreams then
        .ok (u.maxStreams <|> p.maxStreams)
      else .error (.refused .policy)

/-- `policy::allows`. -/
def allows (ceiling : Option Int) (count : Nat) : Bool := ceiling.all fun limit => (count : Int) < limit

/-- `authority::Verified`. -/
structure Verified where
  assignment : Option Uuid
  generation : Option Int
  key : Option Hash
  cap : Option Int
  deriving DecidableEq

/-- The smaller of the administrator's and the owner's live limit. -/
def LiveAssignment.cap (a : LiveAssignment) : Option Int :=
  match a.maxLiveStreams, a.ownerMaxLiveStreams with
  | some admin, some owner => some (min admin owner)
  | admin, owner => admin <|> owner

/-- `authority::verify`, with the saved row of a replay. -/
def verify (d : Directory) (authority : Authority) (request : Request) (saved : Option Reservation) :
    Except Failure Verified :=
  match request.encode, authority.viewing with
  | .error failure, _ => .error failure
  | .ok _, .error error => .error (.refused error)
  | .ok _, .ok viewing =>
    match request.subject with
    | .vod _ _ => .ok ⟨none, none, none, none⟩
    | .live _ _ =>
      match d.liveAssignments.find request.actor.user with
      | none => .error (.refused .authority)
      | some a =>
        if saved.any fun row =>
            row.assignmentId ≠ some a.id || row.sourceGeneration ≠ some viewing.generation then
          .error (.refused .authority)
        else if limitValid a.maxLiveStreams && limitValid a.ownerMaxLiveStreams then
          .ok ⟨some a.id, some viewing.generation, some viewing.key, a.cap⟩
        else .error (.refused .policy)

/-- `types::Receipt`. -/
structure Receipt where
  id : Uuid
  instanceId : Uuid
  state : ReservationState
  deadline : Time
  observedAt : Time
  fresh : Bool
  ownedHere : Bool
  deriving DecidableEq

def Subject.kind : Subject → Kind
  | .vod _ _ => .vod
  | .live _ _ => .live

/-- `Row::receipt`. -/
def Reservation.receipt (r : Reservation) (id : Uuid) (now : Time) (fresh : Bool) (owner : Uuid) :
    Except Failure Receipt :=
  match Request.decode id r.fingerprint with
  | .error failure => .error failure
  | .ok original =>
    if r.kind = original.subject.kind ∧ original.actor.user = r.householdId then
      .ok {
        id, instanceId := r.instanceId, state := r.state, deadline := r.deadline
        observedAt := now, fresh, ownedHere := r.instanceId = owner }
    else .error (.refused .storage)

/-- `vod::policy`. -/
def vodPolicy (user : Uuid) : Tx Policy := do
  let policy ← present (playbackVodPolicy (← get).directory user) .policy
  expect (policy.valid && policy.supported) .policy
  return policy

/-- `vod::matches`. -/
def vodMatches (id : Uuid) (binding : Option Binding) : Tx Unit := do
  let saved := (← get).commands.find id
  expect (saved.map (fun c => (⟨c.intentHash, c.policyHash, c.sourceHash, c.deliveryMode, c.encodes,
    c.source4k, c.ambient⟩ : Binding)) = binding) .conflict

/-- `vod::ambient`. -/
def vodAmbient (authority : Authority) (request : Request) (binding : Binding) : Tx Unit :=
  expect (binding.ambient.isNone || (request.subject.kind = .vod && authority.ambientAllowed))
    .authority

/-- The command row of a binding. -/
def Binding.command (binding : Binding) : Command where
  intentHash := binding.intent
  policyHash := binding.policy
  sourceHash := binding.source
  deliveryMode := binding.mode
  encodes := binding.encodes
  source4k := binding.source4k
  ambient := binding.ambient
  protocol := 2
  state := .preparing
  history := none
  generationId := none
  result := none
  resourcesCompleted := false
  cleanupUncertain := false

/-- `vod::insert`, when there is a binding. -/
def vodInsert (id : Uuid) : Option Binding → Tx Unit
  | none => pure ()
  | some binding => insertCommand id binding.command

/-- `retention::database::missing`. -/
def missing (id : Uuid) : Tx Unit := do
  let now ← clockTimestamp
  let timing := playbackReceiptTimeError id now (← get).retention.cutoff
  expect (timing ≠ 1) .expired
  expect (timing ≠ 2) .requestTime
  expect (timing = 0) .storage

/-! ## Claim, check and retire -/

/-- The household's viewers that are not released. -/
def Store.viewers (s : Store) (household : Uuid) : Nat :=
  s.reservations.count fun _ r => r.householdId = household && r.state ≠ .released

/-- The live ones among them. -/
def Store.liveViewers (s : Store) (household : Uuid) : Nat :=
  s.reservations.count fun _ r =>
    r.householdId = household && r.state ≠ .released && r.kind = .live

/-- `Ledger::claim` on an identity that is there. -/
def replayClaim (instanceId : Uuid) (request : Request) (binding : Option Binding)
    (authority : Authority) (fingerprint : Fingerprint) (now : Time) (row : Reservation) :
    Tx Receipt := do
  expect (row.fingerprint = fingerprint && row.householdId = request.actor.user) .conflict
  vodMatches request.id binding
  let verified := verify (← get).directory authority request (some row)
  if row.state = .held ∧ (row.deadline ≤ now ∨ !verified.isOk) then
    retireReservation request.id
    liftExcept ({ row with state := .retiring }.receipt request.id now false instanceId)
  else
    liftExcept (row.receipt request.id now false instanceId)

/-- What `Ledger::claim` asks of a binding, when there is one: the subject, the
policy, the ambient channel and the household's room for an encoder. -/
def admitBinding (request : Request) (authority : Authority) : Option Binding → Tx Unit
  | none => pure ()
  | some binding => do
    expect (request.subject.kind = .vod) .authority
    let policy ← vodPolicy request.actor.user
    expect (policy.permits binding.mode binding.encodes binding.source4k &&
      authority.policyHash = binding.policy) .policy
    vodAmbient authority request binding
    let s ← get
    expect (!binding.encodes || allows policy.transcode (s.encoders request.actor.user)) .capacity

/-- The rows `Ledger::claim` writes for a new identity. -/
def insertClaim (instanceId : Uuid) (request : Request) (binding : Option Binding)
    (fingerprint : Fingerprint) (verified : Verified) (now : Time) : Tx Receipt := do
  let deadline := (← clockTimestamp) + 60 * second
  let createdAt ← clockTimestamp
  insertReservation request.id {
    instanceId, householdId := request.actor.user, fingerprint, kind := request.subject.kind
    assignmentId := verified.assignment, sourceGeneration := verified.generation
    channelKey := verified.key, state := .held, deadline, createdAt
    releasedAt := none, pruneAfter := none }
  vodInsert request.id binding
  let row ← present ((← get).reservations.find request.id) .storage
  liftExcept (row.receipt request.id now true instanceId)

/-- `Ledger::claim` on an identity that is not there. -/
def admitClaim (instanceId : Uuid) (request : Request) (binding : Option Binding)
    (authority : Authority) (fingerprint : Fingerprint) (now : Time) : Tx Receipt := do
  let cap ← liftExcept ((← get).directory.ceiling request.actor.user)
  admitBinding request authority binding
  let s ← get
  let verified ← liftExcept (verify s.directory authority request none)
  expect (allows cap (s.viewers request.actor.user) &&
    (request.subject.kind ≠ .live || allows verified.cap (s.liveViewers request.actor.user))) .capacity
  insertClaim instanceId request binding fingerprint verified now

/-- `Ledger::claim`. -/
def claim (instanceId : Uuid) (request : Request) (allowInsert : Bool) (binding : Option Binding)
    (authority : Authority) : Tx Receipt := transaction do
  let fingerprint ← liftExcept request.encode
  requireInstance instanceId true
  requireHousehold request.actor.user
  let now ← clockTimestamp
  match (← get).reservations.find request.id with
  | some row => replayClaim instanceId request binding authority fingerprint now row
  | none =>
    if allowInsert then
      admitClaim instanceId request binding authority fingerprint now
    else
      missing request.id
      throw (.refused .indeterminate)

/-- The deadline `check` renews: `UPDATE ... WHERE deadline>clock_timestamp() AND state='held'`.
The clock is read once for the row's condition and again for its new value. -/
def renewDeadline (id : Uuid) : Tx Unit := do
  let now ← clockTimestamp
  expect ((← get).reservations.find id |>.any fun r => r.deadline > now && r.state = .held) .retired
  let deadline := (← clockTimestamp) + 60 * second
  updateReservation id fun r => { r with deadline }

/-- What `Ledger::check_on` asks of a binding, when there is one. -/
def checkBinding (request : Request) (authority : Authority) : Option Binding → Tx Unit
  | none => pure ()
  | some binding => do
    vodAmbient authority request binding
    let policy ← vodPolicy request.actor.user
    expect (playbackVodPermitted (← get) request.id (some policy)) .policy

/-- `Ledger::check_on`. -/
def checkOn (instanceId : Uuid) (request : Request) (renew : Bool) (binding : Option Binding)
    (authority : Authority) : Tx Receipt := do
  let fingerprint ← liftExcept request.encode
  requireInstance instanceId true
  requireHousehold request.actor.user
  let row ← present ((← get).reservations.find request.id) .retired
  expect (row.instanceId = instanceId && row.fingerprint = fingerprint) .conflict
  let now ← clockTimestamp
  expect (row.state = .held && now < row.deadline) .retired
  let _ ← liftExcept ((← get).directory.ceiling request.actor.user)
  vodMatches request.id binding
  checkBinding request authority binding
  let _ ← liftExcept (verify (← get).directory authority request (some row))
  if renew then
    renewDeadline request.id
  let row ← present ((← get).reservations.find request.id) .storage
  liftExcept (row.receipt request.id now false instanceId)

/-- `Ledger::check`. -/
def check (instanceId : Uuid) (request : Request) (renew : Bool) (binding : Option Binding)
    (authority : Authority) : Tx Receipt :=
  transaction (checkOn instanceId request renew binding authority)

/-- `AdmissionOwner::active_sql`: the action runs behind a check of the viewer. -/
def activeSql {α : Type} (instanceId : Uuid) (request : Request) (binding : Option Binding)
    (authority : Authority) (action : Tx α) : Tx α := transaction do
  let _ ← checkOn instanceId request false binding authority
  action

/-- The command columns a release settles. -/
def releaseCommand (id : Uuid) : Tx Unit :=
  updateCommand id fun c =>
    { c with
      resourcesCompleted := true
      state := match c.state with
        | .preparing => .failed
        | .ready => .stopping
        | state => state }

/-- `Ledger::retire`. -/
def retire (instanceId : Uuid) (request : Request) (release : Bool) : Tx Unit := transaction do
  let fingerprint ← liftExcept request.encode
  requireInstance instanceId false
  match (← get).reservations.find request.id with
  | none => return
  | some row =>
    expect (row.instanceId = instanceId && row.fingerprint = fingerprint) .conflict
    if release then
      playbackVodCompleteOutputs request.id
      releaseCommand request.id
      let now ← clockTimestamp
      updateReservation request.id fun r =>
        { r with state := .released, releasedAt := some (r.releasedAt.getD now) }
    else
      retireReservation request.id

/-! ## Prune -/

/-- `ORDER BY prune_after,id`. -/
def pruneOrder (a b : Time × Uuid) : Prop := a.1 < b.1 ∨ a.1 = b.1 ∧ a.2.toNat ≤ b.2.toNat

instance : DecidableRel pruneOrder := fun _ _ => inferInstanceAs (Decidable (_ ∨ _))

/-- The keys of `rows` whose prune time has come, in prune order. -/
def Table.prunable {ρ : Type} (t : Table Uuid ρ) (pruneAfter : ρ → Option Time) (now : Time) :
    List (Time × Uuid) :=
  ((t.select fun _ r => (pruneAfter r).any (· ≤ now)).filterMap fun id =>
    ((t.find id).bind pruneAfter).map fun time => (time, id)).insertionSort pruneOrder

/-- A row of the `CANDIDATES` query. -/
structure PruneCandidate where
  id : Uuid
  viewer : Uuid
  household : Uuid
  pruneAfter : Time
  free : Bool

/-- The `CANDIDATES` query of the operation prune. -/
def pruneCandidates (s : Store) (now : Time) : List PruneCandidate :=
  let after := (Table.prunable s.operations Operation.pruneAfter now).filter fun entry =>
    s.operationRetention.scan.all fun scanned => ¬ pruneOrder entry scanned
  (after.take 128).filterMap fun (time, id) =>
    match s.operations.find id with
    | none => none
    | some p =>
      match s.reservations.find p.reservationId, s.controls.find p.reservationId with
      | some r, some v => some {
          id, viewer := p.reservationId, household := p.householdId, pruneAfter := time
          free := v.pendingOperation ≠ some id &&
            (v.currentOutput ≠ some p.candidateOutput || r.state = .released) }
      | _, _ => none

/-- One selected operation of the prune; whether it was deleted. -/
def pruneOperation (id viewer : Uuid) : Tx Nat := do
  match (← get).operations.find id with
  | none => return 0
  | some operation =>
    let control ← present ((← get).controls.find viewer) .indeterminate
    let row ← present ((← get).reservations.find viewer) .storage
    let released : Bool := row.state = .released
    if control.pendingOperation = some id ∨
        (control.currentOutput = some operation.candidateOutput ∧ ¬released) then
      return 0
    if released ∧ control.state = .retiring ∧ control.currentOutput = some operation.candidateOutput then
      let _ ← updateControl 1 viewer fun v =>
        { v with
          currentOutput := none, checkpointOutput := none, checkpointSequence := 0
          checkpointPosition := none }
    forEach deleteOutput
      ((← get).outputs.select fun _ o => o.operationId = some id && o.reservationId = viewer)
    if operation.reservationId = viewer then
      deleteOperation id
      return 1
    else
      return 0

/-- The sum of what a statement deletes for each element. -/
def tally {β : Type} (visit : β → Tx Nat) : List β → Tx Nat
  | [] => pure 0
  | x :: xs => do
    let first ← visit x
    let rest ← tally visit xs
    return first + rest

/-- The candidates one pass of the operation prune takes: those of the first free
candidate's household, when its row can be locked. -/
def pruneSelection (s : Store) (candidates : List PruneCandidate) (unlocked : Bool) :
    List (Uuid × Uuid) :=
  match candidates.find? PruneCandidate.free with
  | none => []
  | some first =>
    if (s.directory.users.find first.household).isNone || unlocked then
      (((candidates.filter fun c => c.household = first.household && c.free).take 64).map
        fun c => (c.id, c.viewer)).insertionSort fun a b => a.2.toNat ≤ b.2.toNat
    else []

/-- `revisions::retention::prune`. -/
def pruneOperations (unlocked : Bool) : Tx Nat := do
  let now ← clockTimestamp
  let s ← get
  let candidates := pruneCandidates s now
  let selected := pruneSelection s candidates unlocked
  forEach (fun entry => do
    let _ ← present ((← get).controls.find entry.2) .indeterminate) selected
  let observedAt ← clockTimestamp
  updateOperationRetention 1 fun r =>
    { r with
      cutoff := max r.cutoff (observedAt.truncate - 5 * minute)
      scan := candidates.getLast?.map fun c => (c.pruneAfter, c.id) }
  tally (fun entry => pruneOperation entry.1 entry.2) selected

/-- One candidate of `playback_start_prune`. -/
def pruneStart (observedAt : Time) (candidate : Uuid) : Tx Nat := do
  if (← get).operations.holds fun _ p => p.reservationId = candidate then
    return 0
  if (← get).reservations.find candidate |>.any fun r =>
      r.state = .released && r.pruneAfter.any (· ≤ observedAt) then
    deleteReservation candidate
  if ((← get).reservations.find candidate).isSome then
    return 0
  deleteIntent candidate
  return 1

/-- `playback_start_prune`. -/
def playbackStartPrune (budget : Nat) (skipped : Uuid → Bool) : Tx Nat := do
  let observedAt ← clockTimestamp
  require (budget ≤ 128) .PBR04 "playback pruning budget invalid"
  let s ← get
  let candidates := (Table.prunable s.intents StartIntent.pruneAfter observedAt).filter fun entry =>
    (s.intents.find entry.2).any (fun i => i.settledAt.isSome) && !skipped entry.2
  tally (fun entry => pruneStart observedAt entry.2) (candidates.take budget)

/-- `queries::PRUNE` and its two smaller forms. -/
def pruneReceipts (limit : Nat) (now : Time) (skipped : Uuid → Bool) : Tx Nat := do
  let s ← get
  let candidates := (Table.prunable s.reservations Reservation.pruneAfter now).filter fun entry =>
    (s.reservations.find entry.2).any fun r => r.state = .released
  let locked := ((candidates.take limit).map Prod.snd).filter fun id =>
    (s.intents.find id).isNone && !(s.operations.holds fun _ p => p.reservationId = id) && !skipped id
  forEach deleteReservation locked
  return locked.length

structure MaintenanceReceipt where
  deleted : Nat
  cutoff : Time

/-- `Ledger::prune`. -/
def prune (instanceId : Uuid) (unlocked : Bool) (skipped : Uuid → Bool) : Tx MaintenanceReceipt :=
  transaction do
    requireInstance instanceId true
    let operations ← pruneOperations unlocked
    let observedAt ← clockTimestamp
    updateRetention 1 (raiseCutoff (observedAt.truncate - 5 * minute))
    let cutoff := (← get).retention.cutoff
    let now := (← clockTimestamp).truncate
    let starts ← playbackStartPrune (if operations = 0 then 64 else 32) skipped
    let limit :=
      if operations = 0 ∧ starts = 0 then 128
      else if operations = 0 ∨ starts = 0 then 64
      else 32
    let deleted ← pruneReceipts limit now skipped
    return ⟨deleted + operations + starts, cutoff⟩

/-! ## Instances and the operator -/

/-- `playback_instance_protocol_insert` and the insert it guards. -/
def insertInstance (id : Uuid) (startIntentProtocol : Nat) : Tx Unit := do
  require (startIntentProtocol = 2) .PBR04 "incompatible playback instance refused"
  let createdAt ← clockTimestamp
  require (id.extractVersion = some 7) .checkViolation "playback_instances_id_check"
  require ((← get).instances.find id).isNone .uniqueViolation "playback_instances_pkey"
  modify fun s => { s with instances := s.instances.put id {
    revision := 1, fenced := false, createdAt, fencedAt := none, reconciledAt := none
    startIntentProtocol } }

/-- `Ledger::register`. -/
def register (instanceId : Uuid) : Tx Unit := transaction (insertInstance instanceId 2)

/-- `UPDATE playback_instances SET ... WHERE id=$1`. -/
def updateInstance (id : Uuid) (row : Instance) : Tx Unit :=
  modify fun s => { s with instances := s.instances.put id row }

def recordOperator (event : OperatorEvent) : Tx Unit :=
  modify fun s => { s with operatorEvents := event :: s.operatorEvents }

/-- `operator::fence`. -/
def fence (instanceId : Uuid) (expected : Int) : Tx Int := transaction do
  let now ← clockTimestamp
  match (← get).instances.find instanceId with
  | none => throw (.refused .conflict)
  | some row =>
    expect (row.revision = expected && !row.fenced) .conflict
    let revision := row.revision + 1
    updateInstance instanceId { row with fenced := true, revision, fencedAt := some now }
    forEach (fun id => updateIntent id fun i => { i with admissionFenced := true })
      ((← get).intents.select fun _ i => i.instanceId = instanceId && !i.admissionFenced)
    retireWhere fun _ _ r => r.instanceId = instanceId
    recordOperator ⟨instanceId, revision, .fence⟩
    return revision

/-- `operator::reconcile`. -/
def reconcile (instanceId : Uuid) (revision : Int) (resourcesGone : Bool) : Tx Nat := do
  expect resourcesGone .cleanup
  transaction do
    match (← get).instances.find instanceId with
    | none => throw (.refused .conflict)
    | some row =>
      expect (row.fenced && row.revision = revision) .conflict
      let viewers := (← get).reservations.select fun _ r =>
        r.instanceId = instanceId && r.state ≠ .released
      forEach playbackVodCompleteOutputs (viewers.insertionSort fun a b => a.toNat ≤ b.toNat)
      forEach releaseCommand viewers
      forEach (fun id => do
        let now ← clockTimestamp
        updateReservation id fun r => { r with state := .released, releasedAt := some now }) viewers
      forEach (fun id => updateIntent id fun i =>
          { i with admissionFenced := true, preparationComplete := true })
        ((← get).intents.select fun _ i => i.instanceId = instanceId)
      let now ← clockTimestamp
      updateInstance instanceId { row with reconciledAt := some now }
      recordOperator ⟨instanceId, revision, .reconcile⟩
      return viewers.length

end Duskcue.Playback
