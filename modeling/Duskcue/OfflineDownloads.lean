import Duskcue.PlaybackSchema
import Mathlib.Data.List.MinMax

/-! Offline downloads: the jobs and packages of the download domain, the calls that
create and cancel jobs and change packages, and the passes of the package worker.
Calls and passes are kept with the statement they have come to, so a run is any
interleaving of the statements of any number of them. A pass may be dropped
behind any statement, as the scheduler's timeout does, and every statement may
fail, before it has taken effect or with only its answer lost. -/
namespace Duskcue.Downloads
open Playback (Uuid Time minute hour)

def day : Time := 24 * hour

/-! ## Rows -/

inductive JobStatus
  | queued | preparing | ready | failed | cancelled | expired | revoked
  deriving DecidableEq

/-- The statuses the active-job limits count. -/
def JobStatus.active : JobStatus → Bool
  | .queued | .preparing => true
  | _ => false

inductive PackageStatus
  | ready | serving | expired | revoked | cleanupPending | cleaned | failed
  deriving DecidableEq

/-- The statuses the package and byte limits count. -/
def PackageStatus.retained : PackageStatus → Bool
  | .ready | .serving => true
  | _ => false

structure Job where
  createdAt : Time
  updatedAt : Time
  userId : Uuid
  deviceIdentifier : String
  mediaFileId : Option Uuid
  status : JobStatus := .queued
  progressPercent : Nat := 0
  bytesPrepared : Nat := 0
  failureReason : Option String := none
  retryCount : Int := 0
  cancellationRequested : Bool := false
  startedAt : Option Time := none
  completedAt : Option Time := none
  expiresAt : Option Time
  cleanupAfterAt : Option Time

structure Package where
  createdAt : Time
  updatedAt : Time
  downloadJobId : Uuid
  userId : Uuid
  deviceIdentifier : String
  status : PackageStatus := .ready
  totalBytes : Nat
  fileCount : Nat
  firstServedAt : Option Time := none
  expiresAt : Option Time
  revokedAt : Option Time := none
  cleanupAfterAt : Option Time

/-- `issued` holds the job identities that `uuidv7()` has given out; it gives none twice. -/
structure Store where
  jobs : Table Uuid Job
  packages : Table Uuid Package
  issued : List Uuid
  now : Time

namespace Store

/-- `UPDATE download_jobs ... WHERE id = $1`: a row that is gone is no error. -/
def updateJob (s : Store) (id : Uuid) (f : Job → Job) : Store :=
  match s.jobs.find id with
  | none => s
  | some job => { s with jobs := s.jobs.put id (f job) }

/-- `UPDATE download_packages ... WHERE id = $1`. -/
def updatePackage (s : Store) (id : Uuid) (f : Package → Package) : Store :=
  match s.packages.find id with
  | none => s
  | some package => { s with packages := s.packages.put id (f package) }

end Store

/-! ## Limits -/

/-- The jobs and packages a limit is about: those of a user, or of one device of it. -/
inductive Scope
  | user (id : Uuid)
  | device (id : Uuid) (identifier : String)
  deriving DecidableEq

def Scope.owner : Scope → Uuid
  | .user id | .device id _ => id

def Scope.covers (userId : Uuid) (deviceIdentifier : String) : Scope → Bool
  | .user id => userId = id
  | .device id identifier => userId = id && deviceIdentifier = identifier

/-- The fields of `DownloadsConfig` that job creation reads. -/
structure DownloadsConfig where
  maxBytesPerUser : Int
  maxBytesPerDevice : Int
  maxActiveJobsPerUser : Int
  maxActiveJobsPerDevice : Int
  maxRetainedPackagesPerUser : Int
  maxRetainedPackagesPerDevice : Int
  defaultPackageExpiryDays : Int

inductive Resource
  | activeJobs | retainedPackages | bytes

def DownloadsConfig.limit (downloads : DownloadsConfig) : Resource → Scope → Int
  | .activeJobs, .user _ => downloads.maxActiveJobsPerUser
  | .activeJobs, .device _ _ => downloads.maxActiveJobsPerDevice
  | .retainedPackages, .user _ => downloads.maxRetainedPackagesPerUser
  | .retainedPackages, .device _ _ => downloads.maxRetainedPackagesPerDevice
  | .bytes, .user _ => downloads.maxBytesPerUser
  | .bytes, .device _ _ => downloads.maxBytesPerDevice

def Job.counts (scope : Scope) (job : Job) : Bool :=
  scope.covers job.userId job.deviceIdentifier && job.status.active

def Package.counts (scope : Scope) (package : Package) : Bool :=
  scope.covers package.userId package.deviceIdentifier && package.status.retained

/-- `SELECT COUNT(*)` or `SUM(total_bytes)` of `enforce_quota_policy`. -/
def Store.used (s : Store) : Resource → Scope → Nat
  | .activeJobs, scope => s.jobs.count fun _ job => job.counts scope
  | .retainedPackages, scope => s.packages.count fun _ package => package.counts scope
  | .bytes, scope => s.packages.total fun _ package => if package.counts scope then package.totalBytes else 0

/-! ## Creating a job -/

/-- A call of `create_download_job` behind its access and plan checks: the limits it has
still to compare, then the INSERT. -/
structure Request where
  userId : Uuid
  deviceIdentifier : String
  mediaFileId : Uuid
  expiresAt : Time
  checks : List (Resource × Scope)

inductive DownloadError
  | quotaExceeded (reason : String)
  | jobNotFound (id : Uuid)
  | database

/-- The reason `enforce_quota_policy` gives. -/
def quotaReason : Resource → Scope → String
  | .activeJobs, .user _ => "active download job limit reached for this user"
  | .activeJobs, .device _ _ => "active download job limit reached for this device"
  | .retainedPackages, .user _ => "retained package limit reached for this user"
  | .retainedPackages, .device _ _ => "retained package limit reached for this device"
  | .bytes, .user _ => "download byte quota reached for this user"
  | .bytes, .device _ _ => "download byte quota reached for this device"

/-- The comparisons of `enforce_quota_policy`, in its order. -/
def quotaChecks (userId : Uuid) (deviceIdentifier : String) : List (Resource × Scope) :=
  [Resource.activeJobs, .retainedPackages, .bytes].flatMap fun resource =>
    [(resource, .user userId), (resource, .device userId deviceIdentifier)]

/-- `INSERT INTO download_jobs`. -/
def insertJob (request : Request) (id : Uuid) (s : Store) : Store :=
  let job : Job :=
    { createdAt := s.now, updatedAt := s.now, userId := request.userId
      deviceIdentifier := request.deviceIdentifier, mediaFileId := some request.mediaFileId
      expiresAt := some request.expiresAt, cleanupAfterAt := some (request.expiresAt + 7 * day) }
  { s with jobs := s.jobs.put id job, issued := id :: s.issued }

/-- The next statement of a call: the call as it goes on, if it does. -/
def Request.proceed (downloads : DownloadsConfig) (id : Uuid) (request : Request) (s : Store) :
    Except DownloadError (Store × Option Request) :=
  match request.checks with
  | (resource, scope) :: checks =>
    if downloads.limit resource scope ≤ s.used resource scope then
      .error (.quotaExceeded (quotaReason resource scope))
    else .ok (s, some { request with checks })
  | [] => if id ∈ s.issued then .error .database else .ok (insertJob request id s, none)

/-! ## Cancelling a job -/

/-- The UPDATE of `cancel_download_job`. -/
def Job.cancel (reason : String) (now : Time) (job : Job) : Job :=
  { job with
    status := if job.status.active then .cancelled else job.status
    cancellationRequested := true
    failureReason := if job.status.active then some reason else job.failureReason
    completedAt := if job.status.active then some now else job.completedAt
    cleanupAfterAt := some now
    updatedAt := now }

/-- `cancel_download_job`, with the status it answers. -/
def cancelDownloadJob (userId id : Uuid) (reason : Option String) (s : Store) :
    Except DownloadError (Store × JobStatus) :=
  match (s.jobs.find id).filter fun job => job.userId = userId with
  | none => .error (.jobNotFound id)
  | some job =>
    let job := job.cancel (reason.getD "cancelled by user") s.now
    .ok ({ s with jobs := s.jobs.put id job }, job.status)

/-! ## The package worker -/

structure WorkerConfig where
  maxJobsPerRun : Int := 1
  maxRetries : Int := 2
  stalePreparingMinutes : Int := 120
  failedCleanupHours : Int := 24
  readyPackageRetentionDays : Int := 7

/-- `DownloadJobWork`: the job as the claim read it. -/
structure DownloadJobWork where
  id : Uuid
  userId : Uuid
  deviceIdentifier : String
  mediaFileId : Uuid
  retryCount : Int
  expiresAt : Option Time
  deriving DecidableEq

structure PackageFile where
  relativePath : String
  byteSize : Nat
  deriving DecidableEq

/-- The largest value of an INT column. -/
def intMax : Int := 2147483647

/-- The rows `claim_next_job` may take. -/
def Job.claimable (job : Job) : Bool := job.status = .queued && !job.cancellationRequested

-- Times are ordered as numbers are, by an instance that can be evaluated.
local instance (priority := high) : Preorder Time := Int.instLinearOrder.toPreorder

/-- `ORDER BY created_at ASC LIMIT 1 FOR UPDATE SKIP LOCKED`: the oldest row that no other
transaction holds. -/
def nextJob (s : Store) (locked : List Uuid) : Option Uuid :=
  (s.jobs.select fun id job => job.claimable && id ∉ locked).argmin fun id =>
    (s.jobs.find id).elim 0 Job.createdAt

def Job.claim (now : Time) (job : Job) : Job :=
  { job with
    status := .preparing, startedAt := some (job.startedAt.getD now), progressPercent := 5, updatedAt := now }

/-- `claim_next_job`. The join gives no row when the media file is gone, and the claim is
rolled back. -/
def claimNextJob (locked : List Uuid) (s : Store) : Except String (Store × Option DownloadJobWork) :=
  match nextJob s locked with
  | none => .ok (s, none)
  | some id =>
    match (s.jobs.find id).bind fun job => job.mediaFileId.map (job, ·) with
    | none => .error "no rows returned by a query that expected to return at least one row"
    | some (job, mediaFileId) =>
      .ok ({ s with jobs := s.jobs.put id (job.claim s.now) },
        some ⟨id, job.userId, job.deviceIdentifier, mediaFileId, job.retryCount, job.expiresAt⟩)

/-- The rows `recover_stale_preparing` takes. -/
def Job.stale (minutes : Int) (now : Time) (job : Job) : Bool :=
  job.status = .preparing && !job.cancellationRequested && job.updatedAt < now - minutes * minute

def Job.recover (now : Time) (job : Job) : Job :=
  { job with
    status := .queued, retryCount := job.retryCount + 1
    failureReason := some "recovered stale preparing job after worker interruption", updatedAt := now }

def recoverStalePreparing (minutes : Int) (s : Store) : Except String Store :=
  if s.jobs.holds fun _ job => job.stale minutes s.now && decide (intMax ≤ job.retryCount) then
    .error "integer out of range"
  else
    .ok { s with jobs := s.jobs.amend fun _ job => if job.stale minutes s.now then job.recover s.now else job }

/-- `is_cancelled`. -/
def isCancelled (id : Uuid) (s : Store) : Except String Bool :=
  match s.jobs.find id with
  | none => .error "no rows returned by a query that expected to return at least one row"
  | some job => .ok job.cancellationRequested

/-- The UPDATE of `mark_cancelled`. -/
def Job.markCancelled (reason : String) (now : Time) (job : Job) : Job :=
  { job with
    status := .cancelled, cancellationRequested := true, failureReason := some reason
    completedAt := some now, cleanupAfterAt := some now, updatedAt := now }

/-- `update_progress`. -/
def Job.progress (percent bytes : Nat) (now : Time) (job : Job) : Job :=
  { job with progressPercent := percent, bytesPrepared := max job.bytesPrepared bytes, updatedAt := now }

/-- The row `persist_ready_package` writes: a new one, or on conflict the package the job
already has. -/
def Store.packageRow (work : DownloadJobWork) (files : List PackageFile) (id : Uuid) (s : Store) : Uuid × Package :=
  let totalBytes := (files.map PackageFile.byteSize).sum
  let cleanupAfterAt := work.expiresAt.map (· + 7 * day)
  let held := (s.packages.select fun _ package => package.downloadJobId = work.id).head?
  match held.bind fun key => (s.packages.find key).map (key, ·) with
  | none =>
    (id, { createdAt := s.now, updatedAt := s.now, downloadJobId := work.id, userId := work.userId
           deviceIdentifier := work.deviceIdentifier, totalBytes, fileCount := files.length
           expiresAt := work.expiresAt, cleanupAfterAt })
  | some (key, package) =>
    (key, { package with
      status := .ready, totalBytes, fileCount := files.length, updatedAt := s.now, cleanupAfterAt })

/-- `INSERT INTO download_packages ... ON CONFLICT (download_job_id) DO UPDATE`. -/
def Store.upsertPackage (work : DownloadJobWork) (files : List PackageFile) (id : Uuid) (s : Store) : Store :=
  let row := s.packageRow work files id
  { s with packages := s.packages.put row.1 row.2 }

def Job.finishReady (totalBytes : Nat) (now : Time) (job : Job) : Job :=
  { job with
    status := .ready, progressPercent := 100, bytesPrepared := totalBytes, completedAt := some now
    updatedAt := now }

/-- `persist_ready_package`: one transaction. The foreign key asks for the job's row. -/
def persistReadyPackage (work : DownloadJobWork) (files : List PackageFile) (id : Uuid) (s : Store) :
    Except String Store :=
  if (s.jobs.find work.id).isNone then .error "violates foreign key constraint"
  else if (s.packages.find id).isSome then .error "duplicate key value violates unique constraint"
  else
    .ok ((s.upsertPackage work files id).updateJob work.id
      (Job.finishReady (files.map PackageFile.byteSize).sum s.now))

/-- `next_retry_count <= max_retries`, from the count the claim read. -/
def DownloadJobWork.retries (work : DownloadJobWork) (maxRetries : Int) : Bool := work.retryCount + 1 ≤ maxRetries

/-- The UPDATE of `fail_or_retry_job`. -/
def Job.failOrRetry (retry : Bool) (failure : String) (cleanupHours : Int) (now : Time) (job : Job) : Job :=
  { job with
    status := if retry then .queued else .failed
    failureReason := some failure
    retryCount := job.retryCount + 1
    progressPercent := if retry then 0 else job.progressPercent
    completedAt := if retry then job.completedAt else some now
    cleanupAfterAt := if retry then job.cleanupAfterAt else some (now + cleanupHours * hour)
    updatedAt := now }

def failOrRetryJob (config : WorkerConfig) (work : DownloadJobWork) (failure : String) (s : Store) :
    Except String Store :=
  match s.jobs.find work.id with
  | none => .error "no rows returned by a query that expected to return at least one row"
  | some job =>
    if intMax ≤ job.retryCount then .error "integer out of range"
    else
      .ok { s with
        jobs := s.jobs.put work.id
          (job.failOrRetry (work.retries config.maxRetries) failure config.failedCleanupHours s.now) }

/-! ### Cleanup -/

/-- The first UPDATE of `cleanup_due_packages`. -/
def Package.expire (now : Time) (package : Package) : Package :=
  { package with
    status := .expired, cleanupAfterAt := some (package.cleanupAfterAt.getD now), updatedAt := now }

def expireDue (s : Store) : Store :=
  { s with packages := s.packages.amend fun _ package =>
      if package.status.retained && package.expiresAt.any (· ≤ s.now) then package.expire s.now else package }

/-- The second: ready packages that were never served. -/
def retireUnserved (days : Int) (s : Store) : Store :=
  { s with packages := s.packages.amend fun _ package =>
      if package.status = .ready && package.firstServedAt.isNone && package.createdAt < s.now - days * day then
        { package with
          status := .cleanupPending, cleanupAfterAt := some (package.cleanupAfterAt.getD s.now)
          updatedAt := s.now }
      else package }

def Package.due (now : Time) (package : Package) : Bool :=
  package.status ∈ [.expired, .revoked, .cleanupPending, .failed] && package.cleanupAfterAt.any (· ≤ now)

/-- The rows `cleanup_due_job_dirs` takes: no package refers to the job. -/
def Store.dueJob (s : Store) (id : Uuid) (job : Job) : Bool :=
  job.status ∈ [.failed, .cancelled] && job.cleanupAfterAt.any (· ≤ s.now) &&
    !s.packages.holds fun _ package => package.downloadJobId = id

/-! ### Passes -/

/-- The statement `process_job` has come to. -/
inductive Stage
  | checking
  | cancelling (late : Bool)
  | recordingCancelled (late : Bool)
  | preparing
  | packaging
  | rechecking
  | staging
  | persisting
  | recordingReady (totalBytes : Nat)
  | completing (totalBytes : Nat)
  deriving DecidableEq

/-- The statement a pass has come to. -/
inductive Phase
  | recovering
  | claiming
  | starting (work : DownloadJobWork)
  | processing (work : DownloadJobWork) (stage : Stage)
  | failing (work : DownloadJobWork) (failure : String)
  | recordingFailed
  | expiring
  | retiring
  | selectingPackages
  | cleaningPackages (ids : List Uuid)
  | selectingJobs
  | cleaningJobs (ids : List Uuid)
  | ended
  deriving DecidableEq

/-- A pass of `run_download_package_worker`, with the jobs it may still claim. -/
structure Pass where
  left : Nat
  phase : Phase

/-- How a statement fails: before it takes effect, or with its answer lost. -/
inductive Fault
  | refused (reason : String)
  | lost (reason : String)

/-- What a statement meets outside the store. -/
structure Draw where
  fault : Option Fault := none
  locked : List Uuid := []
  packageId : Uuid := 0
  files : List PackageFile := []
  preparedBytes : Nat := 0

/-- The statement does not fail before it takes effect. -/
def Draw.lands (draw : Draw) : Bool :=
  match draw.fault with
  | some (.refused _) => false
  | _ => true

def cancelReason : Bool → String
  | false => "cancelled before package preparation"
  | true => "cancelled after package preparation"

/-- A statement of `process_job`; no stage is left when it returns. The statements that only
write files or events leave the store as it is. -/
def Stage.statement (draw : Draw) (work : DownloadJobWork) (s : Store) :
    Stage → Except String (Store × Option Stage)
  | .checking => do
    let cancelled ← isCancelled work.id s
    pure (s, some (if cancelled then .cancelling false else .preparing))
  | .cancelling late =>
    .ok (s.updateJob work.id (Job.markCancelled (cancelReason late) s.now), some (.recordingCancelled late))
  | .recordingCancelled _ => .ok (s, none)
  | .preparing => .ok (s.updateJob work.id (Job.progress 10 0 s.now), some .packaging)
  | .packaging => .ok (s, some .rechecking)
  | .rechecking => do
    let cancelled ← isCancelled work.id s
    pure (s, some (if cancelled then .cancelling true else .staging))
  | .staging => .ok (s.updateJob work.id (Job.progress 85 draw.preparedBytes s.now), some .persisting)
  | .persisting => do
    let persisted ← persistReadyPackage work draw.files draw.packageId s
    pure (persisted, some (.recordingReady (draw.files.map PackageFile.byteSize).sum))
  | .recordingReady totalBytes => .ok (s, some (.completing totalBytes))
  | .completing totalBytes => .ok (s.updateJob work.id (Job.progress 100 totalBytes s.now), none)

/-- Behind a job: the next claim, or the cleanup once the pass has made all its claims. -/
def Pass.resume (left : Nat) : Pass :=
  if left = 0 then ⟨0, .expiring⟩ else ⟨left, .claiming⟩

/-- The next statement of a pass. -/
def Pass.statement (config : WorkerConfig) (draw : Draw) (s : Store) (pass : Pass) :
    Except String (Store × Pass) :=
  match pass.phase with
  | .recovering => do
    let recovered ← recoverStalePreparing config.stalePreparingMinutes s
    pure (recovered, ⟨(max config.maxJobsPerRun 1).toNat, .claiming⟩)
  | .claiming => do
    let claimed ← claimNextJob draw.locked s
    match claimed.2 with
    | none => pure (claimed.1, ⟨0, .expiring⟩)
    | some work => pure (claimed.1, ⟨pass.left - 1, .starting work⟩)
  | .starting work => .ok (s, ⟨pass.left, .processing work .checking⟩)
  | .processing work stage => do
    let ran ← stage.statement draw work s
    match ran.2 with
    | none => pure (ran.1, Pass.resume pass.left)
    | some stage => pure (ran.1, ⟨pass.left, .processing work stage⟩)
  | .failing work failure => do
    let failed ← failOrRetryJob config work failure s
    pure (failed, ⟨pass.left, .recordingFailed⟩)
  | .recordingFailed => .ok (s, Pass.resume pass.left)
  | .expiring => .ok (expireDue s, ⟨0, .retiring⟩)
  | .retiring => .ok (retireUnserved (max config.readyPackageRetentionDays 1) s, ⟨0, .selectingPackages⟩)
  | .selectingPackages =>
    .ok (s, ⟨0, .cleaningPackages ((s.packages.select fun _ package => package.due s.now).take 25)⟩)
  | .cleaningPackages [] => .ok (s, ⟨0, .selectingJobs⟩)
  | .cleaningPackages (id :: ids) =>
    .ok (s.updatePackage id fun package => { package with status := .cleaned, updatedAt := s.now },
      ⟨0, .cleaningPackages ids⟩)
  | .selectingJobs => .ok (s, ⟨0, .cleaningJobs ((s.jobs.select s.dueJob).take 25)⟩)
  | .cleaningJobs [] => .ok (s, ⟨0, .ended⟩)
  | .cleaningJobs (id :: ids) =>
    .ok (s.updateJob id fun job => { job with cleanupAfterAt := none, updatedAt := s.now }, ⟨0, .cleaningJobs ids⟩)
  | .ended => .ok (s, pass)

/-- Where a pass goes when its statement fails: an error of `process_job` fails the job, any
other ends the pass. -/
def Pass.failed (reason : String) (pass : Pass) : Pass :=
  match pass.phase with
  | .processing work _ => ⟨pass.left, .failing work reason⟩
  | _ => ⟨0, .ended⟩

/-- The next statement of a pass, with the faults it may meet. -/
def Pass.perform (config : WorkerConfig) (draw : Draw) (s : Store) (pass : Pass) : Store × Pass :=
  match draw.fault with
  | some (.refused reason) => (s, pass.failed reason)
  | some (.lost reason) =>
    match pass.statement config draw s with
    | .error raised => (s, pass.failed raised)
    | .ok (s, _) => (s, pass.failed reason)
  | none =>
    match pass.statement config draw s with
    | .error raised => (s, pass.failed raised)
    | .ok performed => performed

/-! ## The system -/

structure Config where
  worker : WorkerConfig
  /-- The effective configuration of a user. -/
  downloads : Uuid → DownloadsConfig

structure System where
  store : Store
  passes : Table Nat Pass
  requests : Table Nat Request

/-- The statements of the calls that change a package are moves of their own. -/
inductive Action
  | request (call : Nat) (userId : Uuid) (deviceIdentifier : String) (mediaFileId : Uuid)
  | proceed (call : Nat) (id : Uuid)
  | cancel (userId id : Uuid) (reason : Option String)
  | launch (pass : Nat)
  | work (pass : Nat) (draw : Draw)
  | drop (pass : Nat)
  | serve (package : Uuid)
  | expire (package : Uuid)
  | revoke (package : Uuid)
  | revokeJob (job : Uuid)
  | deletePackage (package : Uuid)
  | renew (package : Uuid) (expiresAt cleanupAfterAt : Time)
  | renewJob (job : Uuid) (expiresAt cleanupAfterAt : Time)
  | loseFile (mediaFileId : Uuid)
  | removeJob (job : Uuid)

/-- The clock moves on before each action. -/
structure Move where
  elapsed : Nat := 0
  action : Action

def Job.releaseAt (now : Time) (job : Job) : Job := { job with cleanupAfterAt := some now, updatedAt := now }

def Package.delete (now : Time) (package : Package) : Package :=
  if package.status = .cleaned then package
  else { package with status := .cleanupPending, cleanupAfterAt := some now, updatedAt := now }

/-- `delete_download_package`: one transaction on the package and its job. -/
def Store.deletePackage (s : Store) (id : Uuid) : Store :=
  match s.packages.find id with
  | none => s
  | some package =>
    (s.updatePackage id (Package.delete s.now)).updateJob package.downloadJobId (Job.releaseAt s.now)

/-- A media file row goes: `ON DELETE SET NULL`. -/
def Store.loseFile (s : Store) (mediaFileId : Uuid) : Store :=
  { s with jobs := s.jobs.amend fun _ job =>
      if job.mediaFileId = some mediaFileId then { job with mediaFileId := none } else job }

/-- A job goes with its user, library or media item, and its package with it:
`ON DELETE CASCADE`. -/
def Store.removeJob (s : Store) (id : Uuid) : Store :=
  { s with
    jobs := s.jobs.remove id
    packages := s.packages.discard fun _ package => package.downloadJobId = id }

def Package.serve (now : Time) (package : Package) : Package :=
  { package with
    status := if package.status = .ready then .serving else package.status
    firstServedAt := some (package.firstServedAt.getD now), updatedAt := now }

def Package.revoke (now : Time) (package : Package) : Package :=
  { package with
    status := .revoked, revokedAt := some (package.revokedAt.getD now)
    cleanupAfterAt := some (package.cleanupAfterAt.getD now), updatedAt := now }

def Job.revoke (now : Time) (job : Job) : Job :=
  { job with status := .revoked, cleanupAfterAt := some (job.cleanupAfterAt.getD now), updatedAt := now }

/-- What an action on the store alone does to it. -/
def Action.apply (s : Store) : Action → Store
  | .cancel userId id reason => ((cancelDownloadJob userId id reason s).toOption.map Prod.fst).getD s
  | .serve id => s.updatePackage id (Package.serve s.now)
  | .expire id =>
    s.updatePackage id fun package => if package.status.retained then package.expire s.now else package
  | .revoke id =>
    s.updatePackage id fun package => if package.status.retained then package.revoke s.now else package
  | .revokeJob id => s.updateJob id fun job => if job.status = .ready then job.revoke s.now else job
  | .deletePackage id => s.deletePackage id
  | .renew id expiresAt cleanupAfterAt =>
    s.updatePackage id fun package =>
      if package.status.retained then
        { package with expiresAt := some expiresAt, cleanupAfterAt := some cleanupAfterAt, updatedAt := s.now }
      else package
  | .renewJob id expiresAt cleanupAfterAt =>
    s.updateJob id fun job =>
      { job with expiresAt := some expiresAt, cleanupAfterAt := some cleanupAfterAt, updatedAt := s.now }
  | .loseFile mediaFileId => s.loseFile mediaFileId
  | .removeJob id => s.removeJob id
  | _ => s

def advance (sys : System) (elapsed : Nat) : System :=
  { sys with store := { sys.store with now := sys.store.now + elapsed } }

def act (config : Config) (sys : System) : Action → System
  | .request call userId deviceIdentifier mediaFileId =>
    let expiresAt := sys.store.now + (config.downloads userId).defaultPackageExpiryDays * day
    let request := ⟨userId, deviceIdentifier, mediaFileId, expiresAt, quotaChecks userId deviceIdentifier⟩
    { sys with requests := sys.requests.put call request }
  | .proceed call id =>
    match sys.requests.find call with
    | none => sys
    | some request =>
      match request.proceed (config.downloads request.userId) id sys.store with
      | .error _ => { sys with requests := sys.requests.remove call }
      | .ok (store, none) => { sys with store, requests := sys.requests.remove call }
      | .ok (store, some request) => { sys with store, requests := sys.requests.put call request }
  | .launch pass => { sys with passes := sys.passes.put pass ⟨0, .recovering⟩ }
  | .work number draw =>
    match sys.passes.find number with
    | none => sys
    | some pass =>
      let performed := pass.perform config.worker draw sys.store
      { sys with store := performed.1, passes := sys.passes.put number performed.2 }
  | .drop pass => { sys with passes := sys.passes.remove pass }
  | action => { sys with store := action.apply sys.store }

def next (config : Config) (sys : System) (move : Move) : System :=
  act config (advance sys move.elapsed) move.action

/-- No job has been created yet. -/
def System.initial : System :=
  { store := ⟨Table.empty, Table.empty, [], 0⟩, passes := Table.empty, requests := Table.empty }

end Duskcue.Downloads
