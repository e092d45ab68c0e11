import Duskcue.JsonOrder
import Duskcue.Largest
import Duskcue.OfflineDownloads
import Duskcue.Statements
import Duskcue.Text

/-! The reconnect sync of a device with offline packages. A request states how far its
packages have come and hands in the playback events of its time offline. Every
statement takes effect by itself, so a request that ends early leaves what it has
written. An event is known again by its identity, kept with the device's row of
the package. -/
namespace Duskcue.OfflineSync
open Playback (Uuid Time)
open Downloads (PackageStatus intMax)

variable {ν : Type}

/-! ## Requests -/

structure AuthenticatedUser where
  userId : Uuid
  sessionId : Uuid
  profileId : Uuid

inductive ClientPlatform
  | android | ios

inductive LocalStatus
  | notDownloaded | downloading | paused | playable | failed | expired | revoked | deleted | syncPending

structure PackageStateUpdate where
  packageId : Uuid
  localStatus : LocalStatus
  bytesDownloaded : Int
  filesVerified : Int
  localManifestHashSha256 : Option String
  localResumePositionMs : Int

/-- `occurredAt` is the instant as a statement binds it. -/
structure OfflinePlaybackEvent (ν : Type) where
  eventId : Option String
  packageId : Uuid
  eventType : String
  positionMs : Int
  occurredAt : Time
  details : Json ν := .null

structure DownloadSyncRequest (ν : Type) where
  deviceIdentifier : String
  clientPlatform : ClientPlatform
  packageStates : List PackageStateUpdate := []
  playbackEvents : List (OfflinePlaybackEvent ν) := []

structure DownloadSyncResponse where
  acceptedPackageStates : Nat
  acceptedPlaybackEvents : Nat
  acceptedPlaybackEventIds : List String
  revokedPackageIds : List Uuid
  expiredPackageIds : List Uuid
  deletedPackageIds : List Uuid

inductive SyncError
  | invalidRequest (reason : String)
  | packageNotFound (id : Uuid)
  | accessDenied
  | packageNotReady (id : Uuid)
  | database

/-! ## Rows -/

structure DownloadPackage where
  userId : Uuid
  userSessionId : Option Uuid := none
  deviceIdentifier : String
  mediaItemId : Uuid
  mediaFileId : Option Uuid := none
  status : PackageStatus := .ready
  totalBytes : Int
  fileCount : Int
  manifestHashSha256 : Option String := none
  expiresAt : Option Time := none
  revokedAt : Option Time := none

structure UserItemData where
  isWatched : Bool := false
  playCount : Int := 0
  lastPlayedAt : Option Time := none
  resumePositionMs : Int := 0
  lastPlayedMediaFileId : Option Uuid
  updatedAt : Time

structure DeviceState (ν : Type) where
  userSessionId : Option Uuid
  clientPlatform : ClientPlatform
  localStatus : LocalStatus
  bytesDownloaded : Int
  filesVerified : Int
  localManifestHashSha256 : Option String
  lastPlayedAt : Option Time
  localResumePositionMs : Int
  pendingSync : Json ν
  metadata : Json ν

/-- `user_item_data` is unique by profile and item, `download_device_state` by user,
device and package. -/
structure Store (ν : Type) where
  packages : Table Uuid DownloadPackage := Table.empty
  items : Table (Uuid × Uuid) UserItemData := Table.empty
  devices : Table (Uuid × String × Uuid) (DeviceState ν) := Table.empty

/-! ## Playback events -/

/-- How the texts of identities and instants are written. -/
structure Rendering where
  uuid : Uuid → String
  rfc3339 : Time → String

/-- `offline_event_id`: an identity of the client's own, unless it is blank. -/
def offlineEventId (rendering : Rendering) (event : OfflinePlaybackEvent ν) : String :=
  (event.eventId.filter fun value => !(Text.trim value.toList).isEmpty).getD
    (rendering.uuid event.packageId ++ ":" ++ event.eventType ++ ":" ++ toString event.positionMs ++ ":" ++
      rendering.rfc3339 event.occurredAt)

def jsonBool (value : Json ν) (key : String) : Bool := ((value.get key).bind Json.asBool).getD false

namespace OfflinePlaybackEvent

/-- The lower case of the kind. Only ASCII letters have a letter of the two kinds looked for as theirs. -/
def kind (event : OfflinePlaybackEvent ν) : String := event.eventType.toLower

def completed (event : OfflinePlaybackEvent ν) : Bool :=
  event.kind == "completed" || jsonBool event.details "completed"

def watched (event : OfflinePlaybackEvent ν) : Bool := event.completed || jsonBool event.details "watched"

/-- A stop counts as a play, any other event moves the position only. -/
def stops (event : OfflinePlaybackEvent ν) : Bool := event.kind == "stop" || event.kind == "completed"

end OfflinePlaybackEvent

/-- `clamp_i64_to_i32`. -/
def clampI64ToI32 (value : Int) : Int := max 0 (min value intMax)

/-- `GREATEST` of a nullable time and a time. -/
def greatest (stored : Option Time) (time : Time) : Option Time := some ((stored.map (max · time)).getD time)

/-- The upsert of `apply_offline_playback_event` for a stop. -/
def UserItemData.stop (mediaFileId : Option Uuid) (event : OfflinePlaybackEvent ν) :
    Option UserItemData → UserItemData
  | none =>
    { isWatched := event.watched, playCount := 1, lastPlayedAt := some event.occurredAt
      resumePositionMs := if event.watched then 0 else clampI64ToI32 event.positionMs
      lastPlayedMediaFileId := mediaFileId, updatedAt := event.occurredAt }
  | some row =>
    { playCount := row.playCount + 1
      lastPlayedAt := greatest row.lastPlayedAt event.occurredAt
      isWatched := row.isWatched || event.watched
      resumePositionMs :=
        if row.isWatched || event.watched then 0
        else if row.updatedAt ≤ event.occurredAt then
          if event.watched then 0 else clampI64ToI32 event.positionMs
        else row.resumePositionMs
      lastPlayedMediaFileId := mediaFileId <|> row.lastPlayedMediaFileId
      updatedAt := max row.updatedAt event.occurredAt }

/-- The upsert of `apply_offline_playback_event` for any other event. -/
def UserItemData.progress (mediaFileId : Option Uuid) (event : OfflinePlaybackEvent ν) :
    Option UserItemData → UserItemData
  | none =>
    { resumePositionMs := clampI64ToI32 event.positionMs
      lastPlayedMediaFileId := mediaFileId, updatedAt := event.occurredAt }
  | some row =>
    { row with
      resumePositionMs :=
        if row.isWatched then 0
        else if row.updatedAt ≤ event.occurredAt then clampI64ToI32 event.positionMs
        else row.resumePositionMs
      lastPlayedMediaFileId := mediaFileId <|> row.lastPlayedMediaFileId
      updatedAt := max row.updatedAt event.occurredAt }

/-- The row an event leaves. -/
def UserItemData.apply (mediaFileId : Option Uuid) (event : OfflinePlaybackEvent ν) (row : Option UserItemData) :
    UserItemData :=
  if event.stops then UserItemData.stop mediaFileId event row else UserItemData.progress mediaFileId event row

/-! ## Identities of events -/

/-- `accepted_offline_event_ids`. -/
def acceptedOfflineEventIds (metadata : Json ν) : Finset String :=
  match metadata.get "accepted_offline_event_ids" with
  | some (.list ids) => (ids.filterMap Json.asStr).toFinset
  | _ => ∅

/-- The identities `write_accepted_offline_event_ids` keeps. -/
def keptOfflineEventIds (ids : Finset String) : List String :=
  let sorted := ascending ids
  if sorted.length > 500 then sorted.drop (sorted.length - 500) else sorted

/-- `write_accepted_offline_event_ids`. -/
def writeAcceptedOfflineEventIds (metadata : Json ν) (ids : Finset String) : Json ν :=
  let value := .list ((keptOfflineEventIds ids).map .text)
  match metadata with
  | .object fields => .object (Entries.insert "accepted_offline_event_ids" value fields)
  | _ => .object [("accepted_offline_event_ids", value)]

/-! ## Statements -/

/-- An event that a statement has applied. -/
structure Applied where
  packageId : Uuid
  eventId : String
  profileId : Uuid
  mediaItemId : Uuid
  stops : Bool
  deriving DecidableEq

/-- What a statement is for. -/
inductive Label
  | read
  | package (id : Uuid)
  | job
  | record
  | device (packageId : Uuid)
  | item (applied : Applied)
  | accepted (packageId : Uuid)
  deriving DecidableEq

abbrev Sync (ν : Type) := Statements (Store ν) Label SyncError

structure PackageContext where
  packageId : Uuid
  mediaItemId : Uuid
  mediaFileId : Option Uuid
  userSessionId : Option Uuid
  status : PackageStatus
  totalBytes : Int
  fileCount : Int
  manifestHashSha256 : Option String
  expiresAt : Option Time
  revokedAt : Option Time
  isExpired : Bool := false
  isRevoked : Bool := false
  isDeleted : Bool := false

def PackageContext.effectiveLocalStatus (context : PackageContext) (requested : LocalStatus) : LocalStatus :=
  if context.isDeleted then .deleted
  else if context.isExpired then .expired
  else if context.isRevoked then .revoked
  else requested

/-- An order of a hash table's members. -/
structure Hashing where
  order : List Uuid → List Uuid
  order_perm : ∀ ids, (order ids).Perm ids

/-- What a request finds outside the store: the clock and the policy at each package,
and the orders its hash tables come in. -/
structure Draw where
  now : Uuid → Time
  permitted : Uuid → Bool
  packages : Hashing
  groups : Hashing

section
open Statements

/-- `require_device_identifier`. -/
def requireDeviceIdentifier (value : String) : Sync ν String :=
  let trimmed := Text.trim value.toList
  if trimmed = [] then fail (.invalidRequest "device_identifier is required")
  else if Text.byteLength trimmed > 128 then fail (.invalidRequest "device_identifier is too long")
  else done (String.ofList trimmed)

/-- The second read is for the conflict counter only. -/
def loadSyncPackageContext (user : AuthenticatedUser) (packageId : Uuid) (deviceIdentifier : String) :
    Sync ν PackageContext := do
  let found ← read .read fun s => (s.packages.find packageId).filter (·.userId = user.userId)
  match found with
  | none => fail (.packageNotFound packageId)
  | some row =>
    if row.deviceIdentifier ≠ deviceIdentifier then fail .accessDenied
    else do
      read .read fun _ => ()
      pure ⟨packageId, row.mediaItemId, row.mediaFileId, row.userSessionId, row.status, row.totalBytes,
        row.fileCount, row.manifestHashSha256, row.expiresAt, row.revokedAt, false, false, false⟩

/-- `UPDATE download_packages ... WHERE id = $1 AND status IN ('ready', 'serving')`. -/
def Store.retire (id : Uuid) (f : DownloadPackage → DownloadPackage) (s : Store ν) : Store ν :=
  match s.packages.find id with
  | none => s
  | some row => if row.status.retained then { s with packages := s.packages.put id (f row) } else s

def Store.retained (id : Uuid) (s : Store ν) : Bool := (s.packages.find id).any (·.status.retained)

/-- `mark_sync_package_revoked`. -/
def markSyncPackageRevoked (now : Time) (context : PackageContext) : Sync ν Unit := do
  let affected ← send (.package context.packageId)
    (fun s => .ok (s.retire context.packageId fun row =>
      { row with status := .revoked, revokedAt := some (row.revokedAt.getD now) }))
    fun s => done (s.retained context.packageId)
  if affected then do
    write .job .ok
    write .record .ok
  else pure ()

/-- `classify_sync_package`. -/
def classifySyncPackage (draw : Draw) (user : AuthenticatedUser) (context : PackageContext) :
    Sync ν PackageContext :=
  let now := draw.now context.packageId
  if context.userSessionId.isSome && context.userSessionId ≠ some user.sessionId then do
    markSyncPackageRevoked now context
    pure { context with isRevoked := true }
  else if context.status = .expired || context.expiresAt.any (· ≤ now) then do
    write (.package context.packageId) fun s =>
      .ok (s.retire context.packageId fun row => { row with status := .expired })
    pure { context with isExpired := true }
  else if context.status = .cleanupPending || context.status = .cleaned then
    pure { context with isDeleted := true }
  else if context.status = .revoked || context.revokedAt.isSome then
    pure { context with isRevoked := true }
  else if !context.status.retained then fail (.packageNotReady context.packageId)
  else if !draw.permitted context.packageId then do
    markSyncPackageRevoked now context
    pure { context with isRevoked := true }
  else pure context

/-- What `upsert_download_device_state` binds. -/
structure DeviceUpdate (ν : Type) where
  localStatus : LocalStatus
  bytesDownloaded : Int
  filesVerified : Int
  localManifestHashSha256 : Option String
  localResumePositionMs : Int
  lastPlayedAt : Option Time
  metadata : Option (Json ν)

/-- The row `upsert_download_device_state` leaves. -/
def DeviceUpdate.row (update : DeviceUpdate ν) (user : AuthenticatedUser) (platform : ClientPlatform) :
    Option (DeviceState ν) → DeviceState ν
  | none =>
    { userSessionId := some user.sessionId, clientPlatform := platform, localStatus := update.localStatus
      bytesDownloaded := max update.bytesDownloaded 0, filesVerified := max update.filesVerified 0
      localManifestHashSha256 := update.localManifestHashSha256, lastPlayedAt := update.lastPlayedAt
      localResumePositionMs := max update.localResumePositionMs 0, pendingSync := .list []
      metadata := update.metadata.getD (.object []) }
  | some row =>
    { userSessionId := some user.sessionId, clientPlatform := platform, localStatus := update.localStatus
      bytesDownloaded := max row.bytesDownloaded (max update.bytesDownloaded 0)
      filesVerified := max row.filesVerified (max update.filesVerified 0)
      localManifestHashSha256 := update.localManifestHashSha256 <|> row.localManifestHashSha256
      lastPlayedAt := update.lastPlayedAt.elim row.lastPlayedAt (greatest row.lastPlayedAt)
      localResumePositionMs := max update.localResumePositionMs 0, pendingSync := .list []
      metadata := update.metadata.getD row.metadata }

/-- A `JSONB` text holds no NUL. -/
def storable (metadata : Json ν) : Bool :=
  ∀ id ∈ acceptedOfflineEventIds metadata, Char.ofNat 0 ∉ id.toList

def DeviceUpdate.apply (update : DeviceUpdate ν) (user : AuthenticatedUser) (platform : ClientPlatform)
    (deviceIdentifier : String) (packageId : Uuid) (s : Store ν) : Store ν :=
  let key := (user.userId, deviceIdentifier, packageId)
  { s with devices := s.devices.put key (update.row user platform (s.devices.find key)) }

/-- `upsert_download_device_state`. -/
def upsertDownloadDeviceState (label : Label) (user : AuthenticatedUser) (platform : ClientPlatform)
    (deviceIdentifier : String) (packageId : Uuid) (update : DeviceUpdate ν) : Sync ν Unit :=
  write label fun s =>
    if update.metadata.all storable then .ok (update.apply user platform deviceIdentifier packageId s)
    else .error .database

/-- `apply_offline_playback_event`. The count of plays is an `INT`. -/
def applyOfflinePlaybackEvent (user : AuthenticatedUser) (context : PackageContext) (eventId : String)
    (event : OfflinePlaybackEvent ν) : Sync ν Unit :=
  write (.item ⟨context.packageId, eventId, user.profileId, context.mediaItemId, event.stops⟩) fun s =>
    let key := (user.profileId, context.mediaItemId)
    let row := UserItemData.apply context.mediaFileId event (s.items.find key)
    if row.playCount ≤ intMax then .ok { s with items := s.items.put key row } else .error .database

/-! ## The sync -/

/-- What the events of one package have come to. -/
structure Progress where
  acceptedIds : Finset String
  newestPosition : Option Int := none
  newestPlayedAt : Option Time := none
  appliedNewEvent : Bool := false
  acceptedPlaybackEventIds : List String := []
  acceptedPlaybackEvents : Nat := 0

def syncEvent (rendering : Rendering) (user : AuthenticatedUser) (context : PackageContext) (progress : Progress)
    (event : OfflinePlaybackEvent ν) : Sync ν Progress :=
  let eventId := offlineEventId rendering event
  let answered := progress.acceptedPlaybackEventIds ++ [eventId]
  if eventId ∈ progress.acceptedIds then pure { progress with acceptedPlaybackEventIds := answered }
  else do
    applyOfflinePlaybackEvent user context eventId event
    pure {
      acceptedIds := insert eventId progress.acceptedIds
      newestPosition := some (max event.positionMs 0)
      newestPlayedAt := some ((progress.newestPlayedAt.map (max · event.occurredAt)).getD event.occurredAt)
      appliedNewEvent := true
      acceptedPlaybackEventIds := answered
      acceptedPlaybackEvents := progress.acceptedPlaybackEvents + 1 }

/-- What the events of a package have the row of its device state say. -/
def Progress.update (context : PackageContext) (metadata : Json ν) (progress : Progress) : DeviceUpdate ν :=
  ⟨context.effectiveLocalStatus .playable, context.totalBytes, context.fileCount, context.manifestHashSha256,
    progress.newestPosition.getD 0, progress.newestPlayedAt,
    some (writeAcceptedOfflineEventIds metadata progress.acceptedIds)⟩

def syncPackage (rendering : Rendering) (user : AuthenticatedUser) (platform : ClientPlatform)
    (deviceIdentifier : String) (context : PackageContext) (events : List (OfflinePlaybackEvent ν)) :
    Sync ν Progress := do
  let held ← read .read fun s => (s.devices.find (user.userId, deviceIdentifier, context.packageId)).map (·.metadata)
  let metadata := held.getD (.object [])
  let progress ← events.foldlM (syncEvent rendering user context) { acceptedIds := acceptedOfflineEventIds metadata }
  if progress.appliedNewEvent then do
    upsertDownloadDeviceState (.accepted context.packageId) user platform deviceIdentifier context.packageId
      (progress.update context metadata)
    pure progress
  else pure progress

/-- The contexts of the request's packages, each under its package. -/
def loadContexts (draw : Draw) (user : AuthenticatedUser) (deviceIdentifier : String) (packageIds : List Uuid) :
    Sync ν (List (Uuid × PackageContext)) :=
  packageIds.foldlM (fun contexts packageId => do
    let context ← loadSyncPackageContext user packageId deviceIdentifier
    let context ← classifySyncPackage draw user context
    pure (contexts ++ [(packageId, context)])) []

def syncPackageState (user : AuthenticatedUser) (platform : ClientPlatform) (deviceIdentifier : String)
    (contexts : List (Uuid × PackageContext)) (accepted : Nat) (state : PackageStateUpdate) : Sync ν Nat :=
  match contexts.lookup state.packageId with
  | none => pure accepted
  | some context => do
    upsertDownloadDeviceState (.device state.packageId) user platform deviceIdentifier state.packageId
      ⟨context.effectiveLocalStatus state.localStatus, state.bytesDownloaded, state.filesVerified,
        state.localManifestHashSha256, state.localResumePositionMs, none, none⟩
    pure (accepted + 1)

def syncGroup (rendering : Rendering) (user : AuthenticatedUser) (platform : ClientPlatform) (deviceIdentifier : String)
    (contexts : List (Uuid × PackageContext)) (events : List (OfflinePlaybackEvent ν)) (total : List String × Nat)
    (packageId : Uuid) : Sync ν (List String × Nat) :=
  match contexts.lookup packageId with
  | none => pure total
  | some context => do
    let progress ← syncPackage rendering user platform deviceIdentifier context
      (events.filter (·.packageId = packageId))
    pure (total.1 ++ progress.acceptedPlaybackEventIds, total.2 + progress.acceptedPlaybackEvents)

/-- `sync_download_state`. -/
def syncDownloadState (rendering : Rendering) (draw : Draw) (user : AuthenticatedUser) (req : DownloadSyncRequest ν) :
    Sync ν DownloadSyncResponse := do
  let deviceIdentifier ← requireDeviceIdentifier req.deviceIdentifier
  let packageIds := draw.packages.order
    (req.packageStates.map (·.packageId) ++ req.playbackEvents.map (·.packageId)).dedup
  let contexts ← loadContexts draw user deviceIdentifier packageIds
  let acceptedPackageStates ←
    req.packageStates.foldlM (syncPackageState user req.clientPlatform deviceIdentifier contexts) 0
  let accepted ← (draw.groups.order (req.playbackEvents.map (·.packageId)).dedup).foldlM
    (syncGroup rendering user req.clientPlatform deviceIdentifier contexts req.playbackEvents) ([], 0)
  write .record .ok
  let ids := fun marked : PackageContext → Bool => (contexts.filter fun entry => marked entry.2).map Prod.fst
  pure ⟨acceptedPackageStates, accepted.2, accepted.1, ids (·.isRevoked), ids (·.isExpired), ids (·.isDeleted)⟩

end

namespace Sample

def texts : Rendering := ⟨fun _ => "", fun _ => ""⟩

def draw : Draw := ⟨fun _ => 0, fun _ => true, ⟨id, fun _ => .refl _⟩, ⟨id, fun _ => .refl _⟩⟩

def user : AuthenticatedUser := ⟨1, 2, 3⟩

/-- A device with one package of the item 5. -/
def store : Store Unit where
  packages := Table.empty.put 4 { userId := 1, deviceIdentifier := "d", mediaItemId := 5, totalBytes := 9, fileCount := 1 }

def stop : OfflinePlaybackEvent Unit := ⟨some "e", 4, "stop", 700, 10, .null⟩

end Sample

end Duskcue.OfflineSync
