import Duskcue.OfflineDownloads
import Duskcue.Procedures
import Mathlib.Data.List.Sort

/-! The package worker with the directories it fills. A run prepares the files of a job,
records them with their package and goes on to clean up; each statement and each file
operation of a run may fail, before it has taken effect or with only its answer lost.
Runs come one after the other and go on to their end, and nobody else touches the
directories. The calls of the download domain are made between any two operations. -/
namespace Duskcue.Packages
open Playback (Uuid)
open Downloads

/-- The rows of the store with those of `download_package_files`, under their package, and the
directories below the package root. A package is stored in the directory of its job. -/
structure World where
  store : Store
  packageFiles : Table Uuid (List PackageFile)
  disk : Table Uuid (List PackageFile)

namespace World

/-- The `download_package_files` of a package. -/
def filesOf (w : World) (package : Uuid) : List PackageFile := (w.packageFiles.find package).getD []

def write (w : World) (dir : Uuid) (files : List PackageFile) : World := { w with disk := w.disk.put dir files }

end World

/-- What an operation meets outside the store and the directories. -/
structure Chance extends Draw where
  /-- The files a removal cannot remove. -/
  stuck : List PackageFile := []
  manifestBytes : Nat := 0

/-- The statements and file operations of a run. `publish_worker_status_event`,
`dispatch_download_job_notification` and the metrics cannot fail and write neither rows of
the store nor files. -/
inductive Operation
  | createPackageRoot
  | recoverStalePreparing (minutes : Int)
  | claimNextJob
  | recordEvent (eventType : String)
  | isCancelled (job : Uuid)
  | markCancelled (job : Uuid) (reason : String)
  | removeDirAll (dir : Uuid)
  | createDirAll (dir : Uuid)
  | updateProgress (job : Uuid) (percent bytes : Nat)
  | preparePackage (dir : Uuid)
  | directorySize (dir : Uuid)
  | writeManifest (dir : Uuid)
  | collectPackageFiles (dir : Uuid)
  | persistReadyPackage (work : DownloadJobWork) (files : List PackageFile)
  | failOrRetryJob (config : WorkerConfig) (work : DownloadJobWork) (failure : String)
  | expireDue
  | retireUnserved (days : Int)
  | selectDuePackages
  | markCleaned (package : Uuid)
  | selectDueJobs
  | releaseJob (job : Uuid)
  | readPackageRoot
  | nextEntry
  | jobOrPackageExists (dir : Uuid)
  | recordGauges

abbrev Operation.Answer : Operation → Type
  | .claimNextJob => Option DownloadJobWork
  | .isCancelled _ | .jobOrPackageExists _ => Bool
  | .directorySize _ => Nat
  | .collectPackageFiles _ => List PackageFile
  | .selectDuePackages => List (Uuid × Uuid)
  | .selectDueJobs | .readPackageRoot => List Uuid
  | _ => Unit

/-! ## Operations -/

def noSuchDirectory : String := "No such file or directory (os error 2)"

/-- Files written into a directory replace those under their names. -/
def overlay (written files : List PackageFile) : List PackageFile :=
  written ++ files.filter fun file => !written.any fun new => new.relativePath = file.relativePath

def totalBytes (files : List PackageFile) : Nat := (files.map PackageFile.byteSize).sum

/-- `remove_dir_all`. What cannot be removed stays. -/
def removeDirAll (dir : Uuid) (stuck : List PackageFile) (w : World) : Except String World :=
  match w.disk.find dir with
  | none => .error noSuchDirectory
  | some files =>
    match files.filter (· ∈ stuck) with
    | [] => .ok { w with disk := w.disk.remove dir }
    | left => .ok (w.write dir left)

/-- `create_dir_all`. -/
def createDirAll (dir : Uuid) (w : World) : World :=
  match w.disk.find dir with
  | none => w.write dir []
  | some _ => w

def writeFiles (dir : Uuid) (written : List PackageFile) (w : World) : Except String World :=
  match w.disk.find dir with
  | none => .error noSuchDirectory
  | some files => .ok (w.write dir (overlay written files))

/-- `collect_package_files`. -/
def collectPackageFiles (dir : Uuid) (w : World) : Except String (List PackageFile) :=
  match w.disk.find dir with
  | none => .error noSuchDirectory
  | some files => .ok (files.insertionSort fun a b => a.relativePath ≤ b.relativePath)

/-- `persist_ready_package`, one transaction: the package, its files and the job. -/
def persist (work : DownloadJobWork) (files : List PackageFile) (id : Uuid) (w : World) : Except String World := do
  let store ← persistReadyPackage work files id w.store
  pure { w with store, packageFiles := w.packageFiles.put (w.store.packageRow work files id).1 files }

/-- What an operation does, and what it gives. -/
def Operation.run (chance : Chance) (w : World) : (op : Operation) → Except String (World × op.Answer)
  | .createPackageRoot | .recordEvent _ | .nextEntry | .recordGauges => .ok (w, ())
  | .recoverStalePreparing minutes => do
    let store ← Downloads.recoverStalePreparing minutes w.store
    pure ({ w with store }, ())
  | .claimNextJob => do
    let claimed ← Downloads.claimNextJob chance.locked w.store
    pure ({ w with store := claimed.1 }, claimed.2)
  | .isCancelled job => do
    let cancelled ← Downloads.isCancelled job w.store
    pure (w, cancelled)
  | .markCancelled job reason =>
    .ok ({ w with store := w.store.updateJob job (Job.markCancelled reason w.store.now) }, ())
  | .removeDirAll dir => do
    let w ← Packages.removeDirAll dir chance.stuck w
    pure (w, ())
  | .createDirAll dir => .ok (Packages.createDirAll dir w, ())
  | .updateProgress job percent bytes =>
    .ok ({ w with store := w.store.updateJob job (Job.progress percent bytes w.store.now) }, ())
  | .preparePackage dir => do
    let w ← writeFiles dir chance.files w
    pure (w, ())
  | .directorySize dir =>
    match w.disk.find dir with
    | none => .error noSuchDirectory
    | some files => .ok (w, totalBytes files)
  | .writeManifest dir => do
    let w ← writeFiles dir [⟨"manifest.json", chance.manifestBytes⟩] w
    pure (w, ())
  | .collectPackageFiles dir => do
    let files ← Packages.collectPackageFiles dir w
    pure (w, files)
  | .persistReadyPackage work files => do
    let w ← persist work files chance.packageId w
    pure (w, ())
  | .failOrRetryJob config work failure => do
    let store ← Downloads.failOrRetryJob config work failure w.store
    pure ({ w with store }, ())
  | .expireDue => .ok ({ w with store := Downloads.expireDue w.store }, ())
  | .retireUnserved days => .ok ({ w with store := Downloads.retireUnserved days w.store }, ())
  | .selectDuePackages =>
    let due := (w.store.packages.select fun _ package => package.due w.store.now).take 25
    .ok (w, due.filterMap fun id => (w.store.packages.find id).map fun package => (id, package.downloadJobId))
  | .markCleaned package =>
    .ok ({ w with store := w.store.updatePackage package fun package =>
      { package with status := .cleaned, updatedAt := w.store.now } }, ())
  | .selectDueJobs => .ok (w, (w.store.jobs.select w.store.dueJob).take 25)
  | .releaseJob job =>
    .ok ({ w with store := w.store.updateJob job fun job =>
      { job with cleanupAfterAt := none, updatedAt := w.store.now } }, ())
  | .readPackageRoot => .ok (w, w.disk.select fun _ _ => true)
  | .jobOrPackageExists dir =>
    .ok (w, (w.store.jobs.find dir).isSome || w.store.packages.holds fun _ package => package.downloadJobId = dir)

/-- An operation with the faults it may meet. -/
def Operation.effect (op : Operation) (chance : Chance) (w : World) : World × Except String op.Answer :=
  match chance.fault with
  | some (.refused reason) => (w, .error reason)
  | some (.lost reason) =>
    match op.run chance w with
    | .error raised => (w, .error raised)
    | .ok (w, _) => (w, .error reason)
  | none =>
    match op.run chance w with
    | .error raised => (w, .error raised)
    | .ok (w, answer) => (w, .ok answer)

/-! ## The worker -/

abbrev Worker := Procedure Operation Operation.Answer String

open Procedure

def ask (op : Operation) : Worker op.Answer := call op

def resetPackageDir (dir : Uuid) : Worker Unit := do
  ignore (ask (.removeDirAll dir))
  ask (.createDirAll dir)

def markCancelled (work : DownloadJobWork) (reason : String) : Worker Unit := do
  ask (.markCancelled work.id reason)
  ask (.recordEvent "job_cancelled")

/-- `package_size`: what cannot be read counts for nothing. -/
def packageSize (dir : Uuid) : Worker Nat := do
  let size ← attempt (ask (.directorySize dir))
  pure (size.toOption.getD 0)

def writePackageManifest (dir : Uuid) : Worker Unit := do
  let _ ← ask (.collectPackageFiles dir)
  ask (.writeManifest dir)

/-- The end of `process_job`, from its second look at the cancellation. -/
def publishPackage (work : DownloadJobWork) : Worker Unit := do
  let preparedBytes ← packageSize work.id
  ask (.updateProgress work.id 85 preparedBytes)
  writePackageManifest work.id
  let files ← ask (.collectPackageFiles work.id)
  ask (.persistReadyPackage work files)
  ask (.recordEvent "job_ready")
  ask (.updateProgress work.id 100 (totalBytes files))

def processJob (work : DownloadJobWork) : Worker Unit := do
  if ← ask (.isCancelled work.id) then
    markCancelled work "cancelled before package preparation"
  else do
    resetPackageDir work.id
    ask (.updateProgress work.id 10 0)
    ask (.preparePackage work.id)
    if ← ask (.isCancelled work.id) then do
      markCancelled work "cancelled after package preparation"
      ignore (ask (.removeDirAll work.id))
    else publishPackage work

def truncateReason (reason : String) : String :=
  if reason.utf8ByteSize ≤ 512 then reason else String.ofList (reason.toList.take 512)

def failOrRetryJob (config : WorkerConfig) (work : DownloadJobWork) (failure : String) : Worker Unit := do
  ask (.failOrRetryJob config work failure)
  ask (.recordEvent "job_failed")

/-- A round of the loop of `run_download_package_worker`, behind its claim. -/
def handleJob (config : WorkerConfig) (work : DownloadJobWork) : Worker Unit := do
  ask (.recordEvent "job_started")
  match ← attempt (processJob work) with
  | .ok () => pure ()
  | .error error => do
    failOrRetryJob config work (truncateReason error)
    ignore (ask (.removeDirAll work.id))

def claimJobs (config : WorkerConfig) : Nat → Worker Unit
  | 0 => pure ()
  | left + 1 => do
    match ← ask .claimNextJob with
    | none => pure ()
    | some work => do
      handleJob config work
      claimJobs config left

def cleanupDuePackages (days : Int) : Worker Unit := do
  ask .expireDue
  ask (.retireUnserved days)
  let rows ← ask .selectDuePackages
  rows.forM fun row => do
    ignore (ask (.removeDirAll row.2))
    ask (.markCleaned row.1)
    ask (.recordEvent "cleanup")

def cleanupDueJobDirs : Worker Unit := do
  let rows ← ask .selectDueJobs
  rows.forM fun job => do
    ignore (ask (.removeDirAll job))
    ask (.releaseJob job)
    ask (.recordEvent "cleanup")

/-- The loop of `cleanup_orphaned_package_dirs`, with the removals still allowed. -/
def cleanOrphans : Nat → List Uuid → Worker Unit
  | _, [] | 0, _ => pure ()
  | left + 1, dir :: dirs => do
    ask .nextEntry
    if ← ask (.jobOrPackageExists dir) then
      cleanOrphans (left + 1) dirs
    else do
      ignore (ask (.removeDirAll dir))
      ask (.recordEvent "cleanup")
      cleanOrphans left dirs

def cleanupOrphanedPackageDirs : Worker Unit := do
  let dirs ← ask .readPackageRoot
  cleanOrphans 25 dirs

def runDownloadPackageWorker (config : WorkerConfig) : Worker Unit := do
  ask .createPackageRoot
  ask (.recoverStalePreparing config.stalePreparingMinutes)
  claimJobs config (max config.maxJobsPerRun 1).toNat
  cleanupDuePackages (max config.readyPackageRetentionDays 1)
  cleanupDueJobDirs
  cleanupOrphanedPackageDirs
  ask .recordGauges

/-! ## The system -/

structure System where
  world : World
  /-- The run, if one has been started. -/
  worker : Option (Worker Unit)

/-- `create` is the INSERT of `create_download_job`, whatever its checks have let through. -/
inductive Move
  | elapse (seconds : Nat)
  | create (request : Request) (id : Uuid)
  | call (action : Action)
  | launch (config : WorkerConfig)
  | work (chance : Chance)

/-- What the calls of the download domain do. The file rows go with their package. -/
def World.act (w : World) : Action → World
  | .removeJob id =>
    { w with
      store := w.store.removeJob id
      packageFiles := w.packageFiles.discard fun package _ =>
        (w.store.packages.find package).any fun package => package.downloadJobId = id }
  | action => { w with store := action.apply w.store }

/-- The identity is a new one, and the primary key holds it once. -/
def World.create (w : World) (request : Request) (id : Uuid) : World :=
  if id ∈ w.store.issued || (w.store.jobs.find id).isSome then w
  else { w with store := insertJob request id w.store }

/-- A run is under way as long as it comes to another operation. -/
def System.busy (sys : System) : Bool :=
  match sys.worker with
  | some (.perform _ _) => true
  | _ => false

def next (sys : System) : Move → System
  | .elapse seconds =>
    { sys with world.store.now := sys.world.store.now + seconds }
  | .create request id => { sys with world := sys.world.create request id }
  | .call action => { sys with world := sys.world.act action }
  | .launch config => if sys.busy then sys else { sys with worker := some (runDownloadPackageWorker config) }
  | .work chance =>
    match sys.worker with
    | none => sys
    | some worker =>
      let advanced := worker.advance Operation.effect chance sys.world
      ⟨advanced.1, some advanced.2⟩

/-- No job has been created yet. -/
def System.initial : System :=
  ⟨⟨⟨Table.empty, Table.empty, [], 0⟩, Table.empty, Table.empty⟩, none⟩

end Duskcue.Packages
