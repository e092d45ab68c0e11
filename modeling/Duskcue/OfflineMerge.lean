import Duskcue.OfflineSyncSteps

/-! What the new events of one package leave of an item's playback data and of the device's
row, whatever their order in the request. -/
namespace Duskcue.OfflineSync
open Playback (Uuid Time)
open Statements (Leads exists_value leads_run)

variable {ν : Type}

/-! ## The rows whatever the order -/

/-- The event that happened last. -/
def Latest (events : List (OfflinePlaybackEvent ν)) (latest : OfflinePlaybackEvent ν) : Prop :=
  latest ∈ events ∧ ∀ event ∈ events, event.occurredAt ≤ latest.occurredAt

/-- What a row of `user_item_data` takes from new events: nothing of it depends on their order. -/
structure MergedItem (mediaFileId : Option Uuid) (stored : Option UserItemData)
    (events : List (OfflinePlaybackEvent ν)) (latest : OfflinePlaybackEvent ν) (row : UserItemData) : Prop where
  isWatched : row.isWatched = (stored.any (·.isWatched) || events.any fun event => event.stops && event.watched)
  playCount : row.playCount = (stored.map (·.playCount)).getD 0 + events.countP (·.stops)
  lastPlayedAt : row.lastPlayedAt =
    ((stored.bind (·.lastPlayedAt)).toList ++ (events.filter (·.stops)).map (·.occurredAt)).max?
  resumePositionMs : row.resumePositionMs = if row.isWatched then 0 else clampI64ToI32 latest.positionMs
  lastPlayedMediaFileId : row.lastPlayedMediaFileId = (mediaFileId <|> stored.bind (·.lastPlayedMediaFileId))
  updatedAt : row.updatedAt = latest.occurredAt

theorem max?_concat (times : List Time) (time : Time) : (times ++ [time]).max? = greatest times.max? time := by
  cases times with
  | nil => rfl
  | cons => simp [List.max?, greatest]

variable {mediaFileId : Option Uuid} {stored : Option UserItemData} {events : List (OfflinePlaybackEvent ν)}
  {event latest : OfflinePlaybackEvent ν} {row : UserItemData}

/-- The two upserts on a row that is there, as one. -/
theorem apply_some (mediaFileId : Option Uuid) (event : OfflinePlaybackEvent ν) (row : UserItemData) :
    UserItemData.apply mediaFileId event (some row) =
      { isWatched := row.isWatched || (event.stops && event.watched)
        playCount := row.playCount + event.stops.toNat
        lastPlayedAt := if event.stops then greatest row.lastPlayedAt event.occurredAt else row.lastPlayedAt
        resumePositionMs :=
          if row.isWatched || (event.stops && event.watched) then 0
          else if row.updatedAt ≤ event.occurredAt then clampI64ToI32 event.positionMs
          else row.resumePositionMs
        lastPlayedMediaFileId := mediaFileId <|> row.lastPlayedMediaFileId
        updatedAt := max row.updatedAt event.occurredAt } := by
  unfold UserItemData.apply
  cases stops : event.stops
  · simp [UserItemData.progress]
  · cases watched : event.watched <;> simp [UserItemData.stop, watched]

theorem MergedItem.single (later : ∀ row, stored = some row → row.updatedAt < event.occurredAt) :
    MergedItem mediaFileId stored [event] event (UserItemData.apply mediaFileId event stored) := by
  cases stored with
  | none =>
    unfold UserItemData.apply
    cases stops : event.stops <;> constructor <;> simp [UserItemData.stop, UserItemData.progress, stops]
  | some row =>
    have before : row.updatedAt ≤ event.occurredAt := Int.le_of_lt (later row rfl)
    rw [apply_some]
    refine ⟨by simp, ?_, ?_, ?_, rfl, Int.max_eq_right before⟩
    · cases stops : event.stops <;> simp [stops]
    · cases stops : event.stops
      · cases played : row.lastPlayedAt <;> simp [stops, played]
      · simp only [if_true, stops, List.filter_cons_of_pos, List.filter_nil, List.map_cons, List.map_nil,
          Option.bind_some, max?_concat]
        cases row.lastPlayedAt <;> rfl
    · dsimp only
      rw [if_pos before]

/-- One more event. -/
theorem MergedItem.step (merged : MergedItem mediaFileId stored events latest row) (last : Latest events latest) :
    ∃ latest', Latest (events ++ [event]) latest' ∧
      MergedItem mediaFileId stored (events ++ [event]) latest' (UserItemData.apply mediaFileId event (some row)) := by
  rw [apply_some]
  have newest : row.updatedAt ≤ event.occurredAt ∨ event.occurredAt ≤ row.updatedAt := Int.le_total ..
  have played : (if event.stops then greatest row.lastPlayedAt event.occurredAt else row.lastPlayedAt) =
      ((stored.bind (·.lastPlayedAt)).toList ++
        ((events ++ [event]).filter (·.stops)).map (·.occurredAt)).max? := by
    rw [merged.lastPlayedAt, List.filter_append]
    cases stops : event.stops
    · simp [stops]
    · rw [List.filter_cons_of_pos stops, List.filter_nil, List.map_append, ← List.append_assoc, List.map_cons,
        List.map_nil, max?_concat]
      rfl
  have watched : (row.isWatched || (event.stops && event.watched)) =
      (stored.any (·.isWatched) || (events ++ [event]).any fun event => event.stops && event.watched) := by
    rw [merged.isWatched, List.any_append, Bool.or_assoc]
    simp
  have plays : row.playCount + event.stops.toNat =
      (stored.map (·.playCount)).getD 0 + (events ++ [event]).countP (·.stops) := by
    rw [merged.playCount, List.countP_append, List.countP_singleton, Int.add_assoc]
    cases event.stops <;> rfl
  have file : (mediaFileId <|> row.lastPlayedMediaFileId) =
      (mediaFileId <|> stored.bind (·.lastPlayedMediaFileId)) := by
    rw [merged.lastPlayedMediaFileId]
    cases mediaFileId <;> rfl
  by_cases newer : row.updatedAt ≤ event.occurredAt
  · refine ⟨event, ⟨by simp, ?_⟩, watched, plays, played, ?_, file, Int.max_eq_right newer⟩
    · rw [merged.updatedAt] at newer
      simp only [List.mem_append, List.mem_singleton]
      rintro other (member | rfl)
      · exact Int.le_trans (last.2 other member) newer
      · exact Int.le_refl _
    · dsimp only
      rw [if_pos newer]
  · refine ⟨latest, ⟨List.mem_append_left _ last.1, ?_⟩, watched, plays, played, ?_, file, ?_⟩
    · rw [merged.updatedAt] at newer
      simp only [List.mem_append, List.mem_singleton]
      rintro other (member | rfl)
      · exact last.2 other member
      · exact Int.le_of_lt (Int.not_le.mp newer)
    · dsimp only
      rw [if_neg newer, merged.resumePositionMs]
      cases row.isWatched <;> simp
    · rw [← merged.updatedAt]
      exact Int.max_eq_left (Int.le_of_lt (Int.not_le.mp newer))

/-- The row that events applied one after the other leave. -/
def UserItemData.applyAll (mediaFileId : Option Uuid) (events : List (OfflinePlaybackEvent ν))
    (stored : Option UserItemData) : Option UserItemData :=
  events.foldl (fun row event => some (UserItemData.apply mediaFileId event row)) stored

theorem merged_applyAll (some' : events ≠ [])
    (later : ∀ row, stored = some row → ∀ event ∈ events, row.updatedAt < event.occurredAt) :
    ∃ latest row, UserItemData.applyAll mediaFileId events stored = some row ∧ Latest events latest ∧
      MergedItem mediaFileId stored events latest row := by
  induction events using List.reverseRecOn with
  | nil => exact absurd rfl some'
  | append_singleton events event ih =>
    rw [UserItemData.applyAll, List.foldl_append, List.foldl_cons, List.foldl_nil]
    by_cases single : events = []
    · subst single
      exact ⟨event, _, rfl, ⟨by simp, by simp⟩, .single fun row held => later row held event (by simp)⟩
    · obtain ⟨latest, row, before, last, merged⟩ := ih single fun row held other member =>
        later row held other (List.mem_append_left _ member)
      obtain ⟨latest', last', merged'⟩ := @MergedItem.step _ _ _ _ event _ _ merged last
      rw [UserItemData.applyAll] at before
      exact ⟨latest', _, by rw [before], last', merged'⟩

/-- Events at times of their own have one that happened last. -/
theorem Latest.unique (timed : (events.map (·.occurredAt)).Nodup)
    (last : Latest events latest) (also : Latest events other) : latest = other :=
  List.inj_on_of_nodup_map timed last.1 also.1 (Int.le_antisymm (also.2 _ last.1) (last.2 _ also.1))

/-! ## The statements of new events -/

section
open Statements

variable {rendering : Rendering} {user : AuthenticatedUser} {platform : ClientPlatform} {device : String}
  {context : PackageContext} {s s' : Store ν} {labels : List Label}

theorem events_new (led : Leads (events.foldlM (syncEvent rendering user context) progress) s labels (.ok after) s')
    (identified : (events.map (offlineEventId rendering)).Nodup)
    (new : ∀ event ∈ events, offlineEventId rendering event ∉ progress.acceptedIds) :
    s'.devices = s.devices ∧
      s'.items.find (user.profileId, context.mediaItemId) =
        UserItemData.applyAll context.mediaFileId events (s.items.find (user.profileId, context.mediaItemId)) ∧
      after.acceptedIds = progress.acceptedIds ∪ (events.map (offlineEventId rendering)).toFinset ∧
      after.newestPosition = ((events.getLast?.map fun event => max event.positionMs 0) <|> progress.newestPosition) ∧
      after.newestPlayedAt = (progress.newestPlayedAt.toList ++ events.map (·.occurredAt)).max? ∧
      after.appliedNewEvent = (progress.appliedNewEvent || !events.isEmpty) := by
  induction events generalizing progress s labels with
  | nil =>
    cases led
    refine ⟨rfl, rfl, by simp, by simp, ?_, by simp⟩
    cases after.newestPlayedAt <;> rfl
  | cons _ events ih =>
    rw [List.map_cons, List.nodup_cons] at identified
    rw [List.forall_mem_cons] at new
    rw [List.foldlM_cons] at led
    obtain ⟨middle, _, t, _, one, rest, -⟩ := led.bind_ok
    unfold syncEvent at one
    dsimp only at one
    rw [if_neg new.1] at one
    obtain ⟨_, _, u, _, wrote, ended, -⟩ := one.bind_ok
    cases ended
    obtain ⟨-, taken⟩ := leads_write wrote
    dsimp only at taken
    split at taken
    case isFalse => cases taken
    cases taken
    obtain ⟨devices, items, ids, position, played, flag⟩ := ih rest identified.2 fun other member => by
      simp only [Finset.mem_insert, not_or]
      exact ⟨fun same => identified.1 (List.mem_map.mpr ⟨other, member, same⟩), new.2 other member⟩
    refine ⟨devices, ?_, ?_, ?_, ?_, by simpa using flag⟩
    · rw [items, Table.find_put_self]
      rfl
    · rw [ids, List.map_cons, List.toFinset_cons, Finset.insert_union, Finset.union_insert]
    · rw [position]
      cases last : events.getLast? <;> simp [List.getLast?_cons, last]
    · rw [played]
      cases progress.newestPlayedAt <;> rfl

/-- What a package's new events leave: the item's row, and the device's row with what they have come to. -/
theorem package_new (some' : events ≠ [])
    (led : Leads (syncPackage rendering user platform device context events) s labels (.ok after) s')
    (identified : (events.map (offlineEventId rendering)).Nodup) (new : ∀ event ∈ events,
      offlineEventId rendering event ∉ s.accepted (user.userId, device, context.packageId)) :
    s'.items.find (user.profileId, context.mediaItemId) =
        UserItemData.applyAll context.mediaFileId events (s.items.find (user.profileId, context.mediaItemId)) ∧
      after.acceptedIds = s.accepted (user.userId, device, context.packageId) ∪
        (events.map (offlineEventId rendering)).toFinset ∧
      after.newestPosition = (events.getLast?.map fun event => max event.positionMs 0) ∧
      after.newestPlayedAt = (events.map (·.occurredAt)).max? ∧
      s'.devices.find (user.userId, device, context.packageId) =
        some ((after.update context (((s.devices.find (user.userId, device, context.packageId)).map
          (·.metadata)).getD (.object []))).row user platform
          (s.devices.find (user.userId, device, context.packageId))) := by
  unfold syncPackage at led
  obtain ⟨held, _, t, _, read, rest, -⟩ := led.bind_ok
  obtain ⟨-, rfl, same⟩ := leads_read read
  obtain rfl := same.symm
  obtain ⟨progress, _, u, _, folded, remaining, -⟩ := rest.bind_ok
  obtain ⟨devices, items, ids, position, played, flag⟩ := events_new folded identified (by
    simp only [accepted_held]
    exact new)
  simp only [accepted_held] at ids
  split at remaining
  case isFalse unflagged =>
    rw [flag] at unflagged
    exact absurd unflagged (by simpa using some')
  case isTrue =>
    obtain ⟨_, _, v, _, wrote, ended, -⟩ := remaining.bind_ok
    cases ended
    obtain ⟨-, taken⟩ := leads_write wrote
    obtain rfl := device_taken taken
    refine ⟨items, ids, by simpa using position, by simpa using played, ?_⟩
    rw [DeviceUpdate.apply, Table.find_put_self, devices]

variable {draw : Draw} {req : DownloadSyncRequest ν} {contexts : List (Uuid × PackageContext)} {stated : Store ν}

/-- What a request has come to before its playback events. -/
def Prepared (draw : Draw) (user : AuthenticatedUser) (req : DownloadSyncRequest ν) (s : Store ν) (device : String)
    (contexts : List (Uuid × PackageContext)) (stated : Store ν) : Prop :=
  device = String.ofList (Text.trim req.deviceIdentifier.toList) ∧ ∃ first loaded second accepted,
    Leads (loadContexts draw user device (draw.packages.order
      (req.packageStates.map (·.packageId) ++ req.playbackEvents.map (·.packageId)).dedup)) s first (.ok contexts)
      loaded ∧
    Leads (req.packageStates.foldlM (syncPackageState user req.clientPlatform device contexts) 0) loaded second
      (.ok accepted) stated

/-- It is the same for other events of the same packages. -/
theorem Prepared.unique (prepared : Prepared draw user req s device contexts stated)
    (again : Prepared draw user other s device' contexts' stated')
    (named : other.deviceIdentifier = req.deviceIdentifier) (states : other.packageStates = req.packageStates)
    (platform : other.clientPlatform = req.clientPlatform)
    (packages : other.playbackEvents.map (·.packageId) = req.playbackEvents.map (·.packageId)) :
    device' = device ∧ contexts' = contexts ∧ stated' = stated := by
  obtain ⟨rfl, first, loaded, second, accepted, load, state⟩ := prepared
  obtain ⟨rfl, first', loaded', second', accepted', load', state'⟩ := again
  rw [named, states, packages] at load'
  obtain ⟨-, rfl, rfl⟩ := load.unique load'
  rw [named, states, platform] at state'
  obtain ⟨-, -, rfl⟩ := state.unique state'
  exact ⟨by rw [named], rfl, rfl⟩

theorem Prepared.frame (prepared : Prepared draw user req s device contexts stated) :
    ∃ labels, Frame labels s stated ∧ (∀ label ∈ labels, label.packageId = none) ∧
      ∀ entry ∈ contexts, Known user device stated entry.1 entry.2 := by
  obtain ⟨-, first, loaded, second, accepted, load, states⟩ := prepared
  have loading := quiet_leads load (quiet_contexts ..)
  have stating := quiet_leads states (quiet_states ..)
  exact ⟨first ++ second, loading.1.append stating.1, List.forall_mem_append.mpr ⟨loading.2, stating.2⟩,
    fun entry member => ((contexts_known _ load).2 entry member).of_frame stating.1⟩

/-- A request with the events of one package. -/
theorem sync_single (some' : req.playbackEvents ≠ [])
    (own : ∀ event ∈ req.playbackEvents, event.packageId = packageId)
    (led : Leads (syncDownloadState rendering draw user req) s labels (.ok response) s') :
    ∃ device contexts stated context labels after, Prepared draw user req s device contexts stated ∧
      contexts.lookup packageId = some context ∧
      Leads (syncPackage rendering user req.clientPlatform device context req.playbackEvents) stated labels (.ok after)
        s' := by
  unfold syncDownloadState at led
  obtain ⟨device, _, _, _, one, required, -⟩ := led.bind_ok
  obtain ⟨rfl, rfl, named⟩ := require_leads one
  obtain ⟨contexts, first, loaded, _, load, held, -⟩ := required.bind_ok
  obtain ⟨accepted, second, stated, _, states, written, -⟩ := held.bind_ok
  obtain ⟨total, _, grouped, _, groups, recorded, -⟩ := written.bind_ok
  obtain ⟨_, _, t, _, record, ended, -⟩ := recorded.bind_ok
  cases ended
  obtain ⟨-, taken⟩ := leads_write record
  cases taken
  have prepared : Prepared draw user req s device contexts stated :=
    ⟨named device rfl, first, loaded, second, accepted, load, states⟩
  have single : draw.groups.order (req.playbackEvents.map (·.packageId)).dedup = [packageId] := by
    have same : req.playbackEvents.map (·.packageId) = List.replicate req.playbackEvents.length packageId := by
      rw [List.eq_replicate_iff, List.length_map]
      refine ⟨rfl, fun id member => ?_⟩
      obtain ⟨event, there, rfl⟩ := List.mem_map.mp member
      exact own event there
    rw [same, List.replicate_dedup (by simpa using some')]
    exact List.perm_singleton.mp (draw.groups.order_perm _)
  rw [single, List.foldlM_cons] at groups
  obtain ⟨_, _, u, _, group, finished, -⟩ := groups.bind_ok
  cases finished
  have all : req.playbackEvents.filter (·.packageId = packageId) = req.playbackEvents :=
    List.filter_eq_self.mpr fun event member => by simpa using own event member
  have there : packageId ∈ contexts.map Prod.fst := by
    rw [(contexts_known _ load).1]
    refine (draw.packages.order_perm _).mem_iff.mpr (List.mem_dedup.mpr (List.mem_append_right _ ?_))
    obtain ⟨event, member⟩ := List.exists_mem_of_ne_nil _ some'
    exact List.mem_map.mpr ⟨event, member, own event member⟩
  obtain ⟨context, found⟩ : ∃ context, contexts.lookup packageId = some context := by
    rw [← Option.isSome_iff_exists, List.lookup_isSome_iff]
    obtain ⟨entry, member, same⟩ := List.mem_map.mp there
    exact ⟨entry, member, by simp [same]⟩
  unfold syncGroup at group
  rw [found] at group
  obtain ⟨after, _, v, _, package, ended, -⟩ := group.bind_ok
  cases ended
  rw [all] at package
  exact ⟨device, contexts, stated, context, _, after, prepared, found, package⟩

end

/-! ## The rows of a request -/

theorem max?_perm {times others : List Time} (same : times.Perm others) : times.max? = others.max? := by
  ext time
  simp only [List.max?_eq_some_iff, same.mem_iff]

/-- `GREATEST` with a time that may be missing. -/
theorem max?_append (stored : Option Time) (times : List Time) :
    (stored.toList ++ times).max? = times.max?.elim stored (greatest stored) := by
  cases stored with
  | none =>
    rw [Option.toList_none, List.nil_append]
    cases times.max? <;> rfl
  | some =>
    rw [Option.toList_some, List.singleton_append, List.max?_cons]
    cases times.max? <;> rfl

/-- Merged rows do not depend on the order of the events. -/
theorem MergedItem.unique
    (merged : MergedItem mediaFileId stored events latest row) (also : MergedItem mediaFileId stored others latest twin)
    (same : events.Perm others) : row = twin := by
  have watched : row.isWatched = twin.isWatched := by
    rw [merged.isWatched, also.isWatched, same.any_eq]
  have plays : row.playCount = twin.playCount := by
    rw [merged.playCount, also.playCount, same.countP_eq]
  have played : row.lastPlayedAt = twin.lastPlayedAt := by
    rw [merged.lastPlayedAt, also.lastPlayedAt]
    exact max?_perm (((same.filter _).map _).append_left _)
  have resume : row.resumePositionMs = twin.resumePositionMs := by
    rw [merged.resumePositionMs, also.resumePositionMs, watched]
  cases row
  cases twin
  simp only [UserItemData.mk.injEq] at watched plays played resume ⊢
  exact ⟨watched, plays, played, resume, merged.lastPlayedMediaFileId.trans also.lastPlayedMediaFileId.symm,
    merged.updatedAt.trans also.updatedAt.symm⟩

/-- The rows of the item and of the device as they follow from the new events in no order. -/
def Merged (user : AuthenticatedUser) (package : DownloadPackage) (packageId : Uuid)
    (events : List (OfflinePlaybackEvent ν)) (latest : OfflinePlaybackEvent ν) (s s' : Store ν) : Prop :=
  (∃ item, s'.items.find (user.profileId, package.mediaItemId) = some item ∧
    MergedItem package.mediaFileId (s.items.find (user.profileId, package.mediaItemId)) events latest item) ∧
  ∃ device, s'.devices.find (user.userId, package.deviceIdentifier, packageId) = some device ∧
    device.localResumePositionMs = max latest.positionMs 0 ∧
    device.lastPlayedAt = ((s.playedAt (user.userId, package.deviceIdentifier, packageId)).toList ++
      events.map (·.occurredAt)).max?

section

variable {rendering : Rendering} {draw : Draw} {user : AuthenticatedUser} {req : DownloadSyncRequest ν} {s : Store ν}
  {packageId : Uuid} {package : DownloadPackage}

/-- The device's row, from what the request had come to before its events and from the events. -/
def deviceRow (user : AuthenticatedUser) (req : DownloadSyncRequest ν) (context : PackageContext) (stated : Store ν)
    (key : Uuid × String × Uuid) (after : Progress) : DeviceState ν :=
  (after.update context (((stated.devices.find key).map (·.metadata)).getD (.object []))).row user req.clientPlatform
    (stated.devices.find key)

theorem answered_rows (led : Leads (syncDownloadState rendering draw user req) s labels (.ok response) s')
    (some' : req.playbackEvents ≠ []) (own : ∀ event ∈ req.playbackEvents, event.packageId = packageId)
    (found : s.packages.find packageId = some package)
    (identified : (req.playbackEvents.map (offlineEventId rendering)).Nodup) (new : ∀ event ∈ req.playbackEvents,
      offlineEventId rendering event ∉ s.accepted (user.userId, package.deviceIdentifier, packageId)) :
    ∃ device contexts stated context after, Prepared draw user req s device contexts stated ∧
      contexts.lookup packageId = some context ∧
      stated.playedAt (user.userId, package.deviceIdentifier, packageId) =
        s.playedAt (user.userId, package.deviceIdentifier, packageId) ∧
      s'.items.find (user.profileId, package.mediaItemId) = UserItemData.applyAll package.mediaFileId
        req.playbackEvents (s.items.find (user.profileId, package.mediaItemId)) ∧
      after.acceptedIds = s.accepted (user.userId, package.deviceIdentifier, packageId) ∪
        (req.playbackEvents.map (offlineEventId rendering)).toFinset ∧
      after.newestPosition = (req.playbackEvents.getLast?.map fun event => max event.positionMs 0) ∧
      after.newestPlayedAt = (req.playbackEvents.map (·.occurredAt)).max? ∧
      s'.devices.find (user.userId, package.deviceIdentifier, packageId) =
        some (deviceRow user req context stated (user.userId, package.deviceIdentifier, packageId) after) := by
  obtain ⟨device, contexts, stated, context, _, after, prepared, looked, led⟩ := sync_single some' own led
  obtain ⟨labels, frame, quiet, placed⟩ := prepared.frame
  obtain ⟨rfl, known⟩ := known_of_lookup placed looked
  rw [frame.packages, found, Option.map_some, DownloadPackage.lasting, Option.some.injEq] at known
  simp only [Prod.mk.injEq] at known
  obtain ⟨_, rfl, item, file⟩ := known
  have silent := frame.kept (user.userId, package.deviceIdentifier, context.packageId) (Apart.of_quiet quiet).accepted
  have idle : applied labels = [] := by
    unfold applied
    rw [List.filterMap_eq_nil_iff]
    intro label member
    have none := quiet label member
    cases label <;> first | rfl | cases none
  obtain ⟨items, ids, position, played, devices⟩ := package_new some' led identified (by rwa [silent.1])
  refine ⟨_, contexts, stated, context, after, prepared, looked, silent.2, ?_, ?_, position, played, devices⟩
  · rw [item, file, items, frame.items idle]
  · rw [ids, silent.1]

theorem deviceRow_resume (context : PackageContext) (stated : Store ν) (key : Uuid × String × Uuid) (after : Progress) :
    (deviceRow user req context stated key after).localResumePositionMs = max (after.newestPosition.getD 0) 0 := by
  unfold deviceRow
  cases stated.devices.find key <;> rfl

theorem deviceRow_played (context : PackageContext) (stated : Store ν) (key : Uuid × String × Uuid) (after : Progress) :
    (deviceRow user req context stated key after).lastPlayedAt =
      after.newestPlayedAt.elim (stated.playedAt key) (greatest (stated.playedAt key)) := by
  unfold deviceRow Store.playedAt
  cases stated.devices.find key with
  | none => cases played : after.newestPlayedAt <;> simp [DeviceUpdate.row, Progress.update, played, greatest]
  | some => rfl

theorem deviceRow_congr {after other : Progress} (ids : other.acceptedIds = after.acceptedIds)
    (position : other.newestPosition = after.newestPosition) (played : other.newestPlayedAt = after.newestPlayedAt) :
    deviceRow user req context stated key other = deviceRow user req context stated key after := by
  unfold deviceRow Progress.update
  rw [ids, position, played]

/-- Leaving out all but the stops keeps the last time exactly when that is a stop's or the stored one. -/
theorem max?_stops {stored : Option Time} (timed : (events.map (·.occurredAt)).Nodup) (newest : Latest events latest) :
    (stored.toList ++ events.map (·.occurredAt)).max? =
        (stored.toList ++ (events.filter (·.stops)).map (·.occurredAt)).max? ↔
      latest.stops ∨ ∃ time, stored = some time ∧ latest.occurredAt ≤ time := by
  have mem : latest.occurredAt ∈ events.map (·.occurredAt) := List.mem_map_of_mem newest.1
  obtain ⟨most, whole⟩ : ∃ most, (stored.toList ++ events.map (·.occurredAt)).max? = some most := by
    rw [← Option.ne_none_iff_exists', Ne, List.max?_eq_none_iff]
    exact List.ne_nil_of_mem (List.mem_append_right _ mem)
  rw [whole, eq_comm]
  obtain ⟨there, bound⟩ := List.max?_eq_some_iff.mp whole
  have above : latest.occurredAt ≤ most := bound _ (List.mem_append_right _ mem)
  have below : ∀ event ∈ events, event.occurredAt = most → event = latest := fun event listed same =>
    List.inj_on_of_nodup_map timed listed newest.1 (Int.le_antisymm (newest.2 event listed) (same ▸ above))
  rw [List.max?_eq_some_iff]
  constructor
  · rintro ⟨kept, -⟩
    rcases List.mem_append.mp kept with held | stop
    · exact .inr ⟨most, by simpa using held, above⟩
    · obtain ⟨event, listed, same⟩ := List.mem_map.mp stop
      obtain ⟨listed, stops⟩ := List.mem_filter.mp listed
      exact .inl (below event listed same ▸ stops)
  · intro kept
    refine ⟨?_, fun time listed => bound time ?_⟩
    · rcases List.mem_append.mp there with held | event
      · exact List.mem_append_left _ held
      · obtain ⟨event, listed, same⟩ := List.mem_map.mp event
        obtain rfl := below event listed same
        rcases kept with stops | ⟨time, rfl, before⟩
        · exact List.mem_append_right _ (List.mem_map.mpr ⟨event, List.mem_filter.mpr ⟨listed, stops⟩, same⟩)
        · have reached : time = most := Int.le_antisymm (bound time (by simp)) (same ▸ before)
          exact List.mem_append_left _ (by simp [reached])
    · rcases List.mem_append.mp listed with held | stop
      · exact List.mem_append_left _ held
      · exact List.mem_append_right _ ((List.filter_sublist.map _).subset stop)

/-- The request as it is answered. -/
def synced (rendering : Rendering) (draw : Draw) (user : AuthenticatedUser) (s : Store ν) (budget : Nat)
    (req : DownloadSyncRequest ν) : Statements.Execution (Store ν) Label SyncError DownloadSyncResponse :=
  (syncDownloadState rendering draw user req).run budget s

theorem synced_leads (answered : (synced rendering draw user s budget req).outcome = .ok response) :
    Leads (syncDownloadState rendering draw user req) s (synced rendering draw user s budget req).sent (.ok response)
      (synced rendering draw user s budget req).store := by
  rw [← answered]
  exact leads_run ..

/-- The new events of one package leave the rows that follow from them in no order exactly when the event listed
last is where the one that happened last is. The time a device last played at takes every event, so it is that of
the stops exactly when the event that happened last is one or is no later than the time stored. The rows of two
orders are the same exactly when the events listed last are at one position. -/
theorem merged_iff {budget : Nat} {response : DownloadSyncResponse}
    (answered : (synced rendering draw user s budget req).outcome = .ok response)
    (own : ∀ event ∈ req.playbackEvents, event.packageId = packageId)
    (found : s.packages.find packageId = some package)
    (identified : (req.playbackEvents.map (offlineEventId rendering)).Nodup)
    (timed : (req.playbackEvents.map (·.occurredAt)).Nodup)
    (new : ∀ event ∈ req.playbackEvents,
      offlineEventId rendering event ∉ s.accepted (user.userId, package.deviceIdentifier, packageId))
    (later : ∀ item, s.items.find (user.profileId, package.mediaItemId) = some item →
      ∀ event ∈ req.playbackEvents, item.updatedAt < event.occurredAt)
    {latest last : OfflinePlaybackEvent ν} (newest : Latest req.playbackEvents latest)
    (final : req.playbackEvents.getLast? = some last) :
    (Merged user package packageId req.playbackEvents latest s (synced rendering draw user s budget req).store ↔
      max last.positionMs 0 = max latest.positionMs 0) ∧
    ((synced rendering draw user s budget req).store.playedAt (user.userId, package.deviceIdentifier, packageId) =
        ((s.playedAt (user.userId, package.deviceIdentifier, packageId)).toList ++
          (req.playbackEvents.filter (·.stops)).map (·.occurredAt)).max? ↔
      latest.stops ∨ ∃ time, s.playedAt (user.userId, package.deviceIdentifier, packageId) = some time ∧
        latest.occurredAt ≤ time) ∧
    ∀ events other budget' response', req.playbackEvents.Perm events → events.getLast? = some other →
      (synced rendering draw user s budget' { req with playbackEvents := events }).outcome = .ok response' →
      (synced rendering draw user s budget' { req with playbackEvents := events }).store.items.find
          (user.profileId, package.mediaItemId) =
        (synced rendering draw user s budget req).store.items.find (user.profileId, package.mediaItemId) ∧
      ((synced rendering draw user s budget' { req with playbackEvents := events }).store.devices.find
            (user.userId, package.deviceIdentifier, packageId) =
          (synced rendering draw user s budget req).store.devices.find
            (user.userId, package.deviceIdentifier, packageId) ↔
        max other.positionMs 0 = max last.positionMs 0) := by
  have some' : req.playbackEvents ≠ [] := List.ne_nil_of_mem newest.1
  obtain ⟨device, contexts, stated, context, after, prepared, looked, kept, items, ids, position, played, devices⟩ :=
    answered_rows (synced_leads answered) some' own found identified new
  obtain ⟨latest', item, row, newest', merged⟩ := @merged_applyAll _ package.mediaFileId _ _ some' later
  obtain rfl := newest'.unique timed newest
  rw [final, Option.map_some] at position
  have resume : (deviceRow user req context stated (user.userId, package.deviceIdentifier, packageId)
      after).localResumePositionMs = max last.positionMs 0 := by
    rw [deviceRow_resume, position, Option.getD_some, Int.max_eq_left (Int.le_max_right ..)]
  have time : (deviceRow user req context stated (user.userId, package.deviceIdentifier, packageId) after).lastPlayedAt =
      ((s.playedAt (user.userId, package.deviceIdentifier, packageId)).toList ++
        req.playbackEvents.map (·.occurredAt)).max? := by
    rw [deviceRow_played, played, kept, ← max?_append]
  refine ⟨⟨?_, fun same => ?_⟩, ?_, fun events other budget' response' reordered final' answered' => ?_⟩
  · rintro ⟨-, held, there, at', -⟩
    cases devices.symm.trans there
    exact resume.symm.trans at'
  · exact ⟨⟨item, items.trans row, merged⟩, _, devices, resume.trans same, time⟩
  · rw [Store.playedAt, devices, Option.bind_some, time]
    exact max?_stops timed newest
  · have own' : ∀ event ∈ events, event.packageId = packageId := fun event member =>
      own event (reordered.mem_iff.mpr member)
    have some'' : events ≠ [] := fun none => some' (none ▸ reordered).eq_nil
    obtain ⟨_, _, _, _, after', prepared', looked', -, items', ids', position', played', devices'⟩ :=
      answered_rows (synced_leads answered') some'' own' found ((reordered.map _).nodup_iff.mp identified) fun event member => new event (reordered.mem_iff.mpr member)
    have packages : events.map (·.packageId) = req.playbackEvents.map (·.packageId) := by
      rw [List.map_congr_left own', List.map_congr_left own, List.map_const', List.map_const', reordered.length_eq]
    obtain ⟨-, rfl, rfl⟩ := prepared.unique prepared' rfl rfl rfl packages
    cases looked.symm.trans looked'
    obtain ⟨latest'', item', row', newest'', merged'⟩ := @merged_applyAll _ package.mediaFileId _ events some''
      fun held there event member => later held there event (reordered.mem_iff.mpr member)
    obtain rfl : latest'' = latest' := Latest.unique timed
      ⟨reordered.mem_iff.mpr newest''.1, fun event member => newest''.2 event (reordered.mem_iff.mp member)⟩ newest'
    rw [final', Option.map_some] at position'
    refine ⟨?_, ?_⟩
    · rw [items', items, row, row', merged.unique merged' reordered]
    · rw [devices', devices, Option.some.injEq]
      constructor
      · intro same
        have resumed := congrArg DeviceState.localResumePositionMs same
        rw [deviceRow_resume, position', Option.getD_some, Int.max_eq_left (Int.le_max_right ..)] at resumed
        exact resumed.trans resume
      · intro same
        refine deviceRow_congr ?_ (by rw [position', position, same]) ?_
        · rw [ids', ids, List.toFinset_eq_of_perm _ _ (reordered.map _)]
        · rw [played', played]
          exact max?_perm (reordered.map _).symm

end

namespace Sample

def package : DownloadPackage :=
  { userId := 1, deviceIdentifier := "d", mediaItemId := 5, totalBytes := 9, fileCount := 1 }

def older : OfflinePlaybackEvent Unit := ⟨some "a", 4, "heartbeat", 300, 10, .null⟩

def newer : OfflinePlaybackEvent Unit := ⟨some "b", 4, "heartbeat", 900, 20, .null⟩

def request (events : List (OfflinePlaybackEvent Unit)) : DownloadSyncRequest Unit := ⟨"d", .ios, [], events⟩

end Sample

/-- Two heartbeats handed in as they happened. -/
theorem in_order_merged : Merged Sample.user Sample.package 4 [Sample.older, Sample.newer] Sample.newer Sample.store
    (synced Sample.texts Sample.draw Sample.user Sample.store 9
      (Sample.request [Sample.older, Sample.newer])).store := by
  obtain ⟨response, answered⟩ := exists_value (show (synced Sample.texts Sample.draw Sample.user Sample.store 9
    (Sample.request [Sample.older, Sample.newer])).outcome.toBool = true by decide +kernel)
  refine (merged_iff answered ?_ rfl ?_ ?_ ?_ ?_ ⟨?_, ?_⟩ rfl).1.mpr rfl
  · decide
  · decide +kernel
  · decide
  · exact fun _ _ => Finset.notMem_empty _
  · exact nofun
  · exact List.mem_cons_of_mem _ List.mem_cons_self
  · decide

/-- The same two with the newer one listed first: the device resumes where the older one was. -/
theorem listed_last_resumes :
    (synced Sample.texts Sample.draw Sample.user Sample.store 9
      (Sample.request [Sample.newer, Sample.older])).outcome.toBool = true ∧
    Latest [Sample.newer, Sample.older] Sample.newer ∧
    ((synced Sample.texts Sample.draw Sample.user Sample.store 9
      (Sample.request [Sample.newer, Sample.older])).store.devices.find (1, "d", 4)).map (·.localResumePositionMs) =
        some 300 ∧
    ((synced Sample.texts Sample.draw Sample.user Sample.store 9
      (Sample.request [Sample.older, Sample.newer])).store.devices.find (1, "d", 4)).map (·.localResumePositionMs) =
        some 900 := by
  refine ⟨?_, ⟨List.mem_cons_self, ?_⟩, ?_, ?_⟩ <;> decide +kernel

end Duskcue.OfflineSync
