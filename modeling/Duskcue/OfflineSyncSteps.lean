import Duskcue.OfflineSync

/-! What the statements of a sync do: to the packages, to the count of plays of an item,
and to the identities kept of a package's events. -/
namespace Duskcue.OfflineSync
open Playback (Uuid Time)
open Statements (Leads)

variable {ν : Type}

/-! ## Identities of events -/

/-- What is written of a package's identities is read back as the 500 largest. -/
theorem accepted_write (metadata : Json ν) (ids : Finset String) :
    acceptedOfflineEventIds (writeAcceptedOfflineEventIds metadata ids) = largest 500 ids := by
  have kept : (keptOfflineEventIds ids).toFinset = largest 500 ids := by
    unfold keptOfflineEventIds
    dsimp only
    rw [ascending_eq_sort, Finset.length_sort]
    split
    case isTrue => exact toFinset_drop_sort 500 ids
    case isFalse few => rw [Finset.sort_toFinset, largest_of_card_le (not_lt.mp few)]
  have texts : ((keptOfflineEventIds ids).map Json.text).filterMap (Json.asStr (ν := ν)) = keptOfflineEventIds ids := by
    rw [List.filterMap_map]
    exact List.filterMap_some
  have written : (writeAcceptedOfflineEventIds metadata ids).get "accepted_offline_event_ids" =
      some (.list ((keptOfflineEventIds ids).map .text)) := by
    unfold writeAcceptedOfflineEventIds
    split
    · exact Entries.lookup_insert ..
    · change [("accepted_offline_event_ids", _)].lookup "accepted_offline_event_ids" = _
      rw [Entries.lookup_cons_eq, if_pos rfl]
  unfold acceptedOfflineEventIds
  rw [written]
  simp only [texts, kept]

/-- The identities kept with a row of `download_device_state`. -/
def Store.accepted (s : Store ν) (key : Uuid × String × Uuid) : Finset String :=
  ((s.devices.find key).map fun row => acceptedOfflineEventIds row.metadata).getD ∅

/-- The time a row of `download_device_state` was last played at. -/
def Store.playedAt (s : Store ν) (key : Uuid × String × Uuid) : Option Time :=
  (s.devices.find key).bind (·.lastPlayedAt)

/-- The plays counted for an item of a profile. -/
def Store.plays (s : Store ν) (key : Uuid × Uuid) : Int := ((s.items.find key).map (·.playCount)).getD 0

/-! ## The frame of a statement -/

/-- The columns of a package that no sync writes. -/
def DownloadPackage.lasting (row : DownloadPackage) : Uuid × String × Uuid × Option Uuid :=
  (row.userId, row.deviceIdentifier, row.mediaItemId, row.mediaFileId)

def Applied.counts (key : Uuid × Uuid) (applied : Applied) : Bool :=
  applied.stops && (applied.profileId, applied.mediaItemId) == key

/-- The event a statement has applied. -/
def Label.applied : Label → Option Applied
  | .item applied => some applied
  | _ => none

/-- The package whose events a statement is for. -/
def Label.packageId : Label → Option Uuid
  | .item applied => some applied.packageId
  | .accepted id => some id
  | _ => none

/-- The events that statements with these labels have applied, in order. -/
def applied (labels : List Label) : List Applied := labels.filterMap Label.applied

/-- What statements with these labels may have done to a store. -/
structure Frame (labels : List Label) (s s' : Store ν) : Prop where
  packages : ∀ id, (s'.packages.find id).map (·.lasting) = (s.packages.find id).map (·.lasting)
  plays : ∀ key, s'.plays key = s.plays key + (applied labels).countP (Applied.counts key)
  items : applied labels = [] → s'.items = s.items
  kept : ∀ key, Label.accepted key.2.2 ∉ labels → s'.accepted key = s.accepted key ∧ s'.playedAt key = s.playedAt key

theorem Frame.nil (s : Store ν) : Frame [] s s :=
  ⟨fun _ => rfl, fun _ => (Int.add_zero _).symm, fun _ => rfl, fun _ _ => ⟨rfl, rfl⟩⟩

theorem Frame.append (first : Frame labels a b) (rest : Frame others b c) : Frame (labels ++ others) a c where
  packages id := (rest.packages id).trans (first.packages id)
  plays key := by
    have before := first.plays key
    have later := rest.plays key
    rw [applied, List.filterMap_append, List.countP_append, later, before]
    push_cast
    exact Int.add_assoc ..
  items idle := by
    rw [applied, List.filterMap_append, List.append_eq_nil_iff] at idle
    rw [rest.items idle.2, first.items idle.1]
  kept key absent := by
    rw [List.mem_append, not_or] at absent
    obtain ⟨ids, played⟩ := first.kept key absent.1
    rw [← ids, ← played]
    exact rest.kept key absent.2

/-- A statement whose effect stays within the frame of its label. -/
def Framed (label : Label) (effect : Store ν → Except SyncError (Store ν)) : Prop :=
  ∀ s s', effect s = .ok s' → Frame [label] s s'

/-- A statement that is no event's. -/
def Quiet (label : Label) (effect : Store ν → Except SyncError (Store ν)) : Prop :=
  label.packageId = none ∧ Framed label effect

theorem applied_quiet {label : Label} (quiet : label.packageId = none) : applied [label] = [] := by
  cases label <;> first | rfl | cases quiet

/-- A statement that leaves the store alone. -/
theorem quiet_idle {label : Label} (quiet : label.packageId = none) :
    Quiet label (Except.ok : Store ν → Except SyncError (Store ν)) := by
  refine ⟨quiet, ?_⟩
  rintro s s' ⟨⟩
  exact ⟨fun _ => rfl, fun _ => by simp [applied_quiet quiet], fun _ => rfl, fun _ _ => ⟨rfl, rfl⟩⟩

theorem quiet_retire {id : Uuid} (lasting : ∀ row, (f row).lasting = row.lasting) :
    Quiet (.package id) fun s : Store ν => .ok (s.retire id f) := by
  refine ⟨rfl, ?_⟩
  rintro s s' ⟨⟩
  have same : (s.retire id f).items = s.items ∧ (s.retire id f).devices = s.devices := by
    unfold Store.retire
    split
    · exact ⟨rfl, rfl⟩
    · split <;> exact ⟨rfl, rfl⟩
  refine ⟨fun other => ?_, fun key => ?_, fun _ => same.1, fun key _ => ?_⟩
  · unfold Store.retire
    split
    case h_1 => rfl
    case h_2 row found =>
      split
      case isFalse => rfl
      case isTrue =>
        rw [Table.find_put]
        split
        case isTrue same => rw [same, found, Option.map_some, Option.map_some, lasting]
        case isFalse => rfl
  · rw [Store.plays, same.1]
    exact (Int.add_zero _).symm
  · rw [Store.accepted, Store.playedAt, same.2]
    exact ⟨rfl, rfl⟩

theorem framed_device {label : Label} {update : DeviceUpdate ν} (silent : label.applied = none)
    (keeps : update.metadata = none ∧ update.lastPlayedAt = none ∨ label = .accepted packageId) :
    (upsertDownloadDeviceState label user platform device packageId update).Each fun _ effect =>
      Framed label effect := by
  refine Statements.each_write fun s s' taken => ?_
  have quiet : applied [label] = [] := by simp [applied, silent]
  split at taken
  case isFalse => cases taken
  cases taken
  refine ⟨fun _ => rfl, fun key => by simp [quiet, Store.plays, DeviceUpdate.apply], fun _ => rfl, fun key absent => ?_⟩
  unfold Store.accepted Store.playedAt DeviceUpdate.apply
  dsimp only
  rw [Table.find_put]
  split
  case isFalse => exact ⟨rfl, rfl⟩
  case isTrue same =>
    subst same
    rcases keeps with ⟨unread, unplayed⟩ | rfl
    · cases held : s.devices.find (user.userId, device, packageId) with
      | none => simp [DeviceUpdate.row, unread, unplayed, acceptedOfflineEventIds, Json.get]
      | some => simp [DeviceUpdate.row, unread, unplayed]
    · simp at absent

theorem plays_apply (mediaFileId : Option Uuid) (event : OfflinePlaybackEvent ν) (row : Option UserItemData) :
    (UserItemData.apply mediaFileId event row).playCount = (row.map (·.playCount)).getD 0 + event.stops.toNat := by
  unfold UserItemData.apply
  cases row <;> cases event.stops <;> simp [UserItemData.stop, UserItemData.progress]

theorem framed_event (user : AuthenticatedUser) (context : PackageContext) (eventId : String)
    (event : OfflinePlaybackEvent ν) : (applyOfflinePlaybackEvent user context eventId event).Each Framed := by
  refine Statements.each_write fun s s' taken => ?_
  dsimp only at taken
  split at taken
  case isFalse => cases taken
  cases taken
  refine ⟨fun _ => rfl, fun key => ?_, nofun, fun _ _ => ⟨rfl, rfl⟩⟩
  unfold Store.plays
  simp only [applied, List.filterMap_cons, Label.applied, List.filterMap_nil, List.countP_singleton, Applied.counts]
  rw [Table.find_put]
  split
  case isTrue same =>
    subst same
    rw [Option.map_some, Option.getD_some, plays_apply]
    cases event.stops <;> simp
  case isFalse other =>
    have apart : ((user.profileId, context.mediaItemId) == key) = false := by
      simpa using fun same => other same.symm
    simp [apart]

section
variable {α : Type} {request : Sync ν α} {s s' : Store ν} {labels : List Label}
  {outcome : Except (Ending SyncError) α}

theorem framed_leads (led : Leads request s labels outcome s') (framed : request.Each Framed) : Frame labels s s' := by
  refine led.each framed Frame.nil ?_
  intro label effect labels a b c step taken rest
  exact (step a b taken).append rest

theorem quiet_leads (led : Leads request s labels outcome s') (quiet : request.Each Quiet) :
    Frame labels s s' ∧ ∀ label ∈ labels, label.packageId = none := by
  refine led.each (R := fun labels s s' => Frame labels s s' ∧ ∀ label ∈ labels, label.packageId = none) quiet
    (fun s => ⟨.nil s, by simp⟩) ?_
  intro label effect labels a b c step taken rest
  exact ⟨(step.2 a b taken).append rest.1, List.forall_mem_cons.mpr ⟨step.1, rest.2⟩⟩

end

/-! ## The packages of a request -/

section
open Statements

variable (rendering : Rendering) (draw : Draw) (user : AuthenticatedUser) (platform : ClientPlatform) (device : String)

theorem quiet_mark (now : Time) (context : PackageContext) :
    (markSyncPackageRevoked now context : Sync ν Unit).Each Quiet := by
  unfold markSyncPackageRevoked
  refine Each.bind ⟨quiet_retire fun _ => rfl, fun _ => trivial⟩ fun affected => ?_
  cases affected
  · exact trivial
  · exact (each_write (quiet_idle rfl)).bind fun _ => each_write (quiet_idle rfl)

theorem quiet_classify (context : PackageContext) :
    (classifySyncPackage draw user context : Sync ν PackageContext).Each Quiet := by
  unfold classifySyncPackage
  dsimp only
  split
  · exact (quiet_mark ..).bind fun _ => trivial
  split
  · exact Each.bind (each_write (quiet_retire fun _ => rfl)) fun _ => trivial
  split
  · exact trivial
  split
  · exact trivial
  split
  · exact trivial
  split
  · exact (quiet_mark ..).bind fun _ => trivial
  · exact trivial

theorem quiet_load (packageId : Uuid) :
    (loadSyncPackageContext user packageId device : Sync ν PackageContext).Each Quiet := by
  unfold loadSyncPackageContext
  refine (each_read (quiet_idle rfl)).bind fun found => ?_
  cases found with
  | none => exact trivial
  | some =>
    dsimp only
    split
    · exact trivial
    · exact (each_read (quiet_idle rfl)).bind fun _ => trivial

theorem quiet_contexts (packageIds : List Uuid) :
    (loadContexts draw user device packageIds : Sync ν _).Each Quiet := by
  refine each_foldlM (fun contexts packageId => ?_) _ _
  exact (quiet_load ..).bind fun context => (quiet_classify ..).bind fun _ => trivial

theorem quiet_states (contexts : List (Uuid × PackageContext)) (states : List PackageStateUpdate) :
    (states.foldlM (syncPackageState user platform device contexts) 0 : Sync ν Nat).Each Quiet := by
  refine each_foldlM (fun accepted state => ?_) _ _
  unfold syncPackageState
  split
  · exact trivial
  · refine Each.bind ⟨⟨rfl, ?_⟩, fun _ => trivial⟩ fun _ => trivial
    exact (framed_device rfl (.inl ⟨rfl, rfl⟩)).1

/-- What a context says of its package. -/
def Known (s : Store ν) (packageId : Uuid) (context : PackageContext) : Prop :=
  context.packageId = packageId ∧ (s.packages.find packageId).map (·.lasting) =
    some (user.userId, device, context.mediaItemId, context.mediaFileId)

variable {user device} {s s' : Store ν} {labels : List Label}

theorem Known.of_frame (known : Known user device s packageId context)
    (frame : Frame labels s s') : Known user device s' packageId context :=
  ⟨known.1, (frame.packages packageId).trans known.2⟩

theorem classify_keeps (led : Leads (classifySyncPackage draw user context) s labels (.ok classified) s') :
    classified.packageId = context.packageId ∧ classified.mediaItemId = context.mediaItemId ∧
      classified.mediaFileId = context.mediaFileId := by
  unfold classifySyncPackage at led
  dsimp only at led
  split at led
  · obtain ⟨_, _, _, _, -, rest, -⟩ := led.bind_ok
    cases rest
    exact ⟨rfl, rfl, rfl⟩
  split at led
  · obtain ⟨_, _, _, _, -, rest, -⟩ := led.bind_ok
    cases rest
    exact ⟨rfl, rfl, rfl⟩
  split at led
  · cases led
    exact ⟨rfl, rfl, rfl⟩
  split at led
  · cases led
    exact ⟨rfl, rfl, rfl⟩
  split at led
  · cases led
  split at led
  · obtain ⟨_, _, _, _, -, rest, -⟩ := led.bind_ok
    cases rest
    exact ⟨rfl, rfl, rfl⟩
  · cases led
    exact ⟨rfl, rfl, rfl⟩

theorem load_known (led : Leads (loadSyncPackageContext user packageId device) s labels (.ok context) s') :
    Known user device s packageId context := by
  obtain ⟨found, _, middle, _, looked, rest, -⟩ := led.bind_ok
  obtain ⟨-, rfl, rfl⟩ := leads_read looked
  split at rest
  case h_1 => cases rest
  case h_2 row held =>
    obtain ⟨there, owned⟩ := Option.filter_eq_some_iff.mp held
    split at rest
    case isTrue => cases rest
    case isFalse same =>
      obtain ⟨_, _, _, _, -, rest, -⟩ := rest.bind_ok
      cases rest
      refine ⟨rfl, ?_⟩
      rw [there, Option.map_some, DownloadPackage.lasting, of_decide_eq_true owned, not_not.mp same]

theorem contexts_known (led : Leads (loadContexts draw user device packageIds) s labels (.ok contexts) s') :
    contexts.map Prod.fst = packageIds ∧ ∀ entry ∈ contexts, Known user device s' entry.1 entry.2 := by
  have growing : ∀ packageIds held s labels, (∀ entry ∈ held, Known user device s entry.1 entry.2) →
      Leads (packageIds.foldlM (fun contexts packageId => do
        let context ← loadSyncPackageContext user packageId device
        let context ← classifySyncPackage draw user context
        pure (contexts ++ [(packageId, context)])) held : Sync ν _) s labels (.ok contexts) s' →
      contexts.map Prod.fst = held.map Prod.fst ++ packageIds ∧
        ∀ entry ∈ contexts, Known user device s' entry.1 entry.2 := by
    intro packageIds
    induction packageIds with
    | nil =>
      intro held s labels known led
      cases led
      exact ⟨by simp, known⟩
    | cons _ _ ih =>
      intro held s labels known led
      rw [List.foldlM_cons] at led
      obtain ⟨grown, _, middle, _, one, rest, -⟩ := led.bind_ok
      obtain ⟨context, _, loaded, _, load, one, -⟩ := one.bind_ok
      obtain ⟨classified, _, marked, _, classify, one, -⟩ := one.bind_ok
      cases one
      have own := load_known load
      have first := (quiet_leads load (quiet_load ..)).1
      have second := (quiet_leads classify (quiet_classify ..)).1
      have same := classify_keeps draw classify
      obtain ⟨names, all⟩ := ih _ _ _ (by
        simp only [List.mem_append, List.mem_singleton]
        rintro entry (old | rfl)
        · exact ((known entry old).of_frame first).of_frame second
        · have kept := (own.of_frame first).of_frame second
          unfold Known at kept ⊢
          rwa [same.1, same.2.1, same.2.2]) rest
      exact ⟨by simpa using names, all⟩
  simpa using growing packageIds [] s labels (by simp) led

end

/-! ## The events of a package -/

section
open Statements

variable (rendering : Rendering) (user : AuthenticatedUser) (platform : ClientPlatform) (device : String)
  (context : PackageContext) {s s' : Store ν} {labels : List Label}

/-- What the statement of an event says it has applied. -/
def appliedAs (event : OfflinePlaybackEvent ν) : Applied :=
  ⟨context.packageId, offlineEventId rendering event, user.profileId, context.mediaItemId, event.stops⟩

theorem framed_syncEvent (progress : Progress) (event : OfflinePlaybackEvent ν) :
    (syncEvent rendering user context progress event).Each Framed := by
  unfold syncEvent
  dsimp only
  split
  · exact trivial
  · exact (framed_event ..).bind fun _ => trivial

theorem framed_package (events : List (OfflinePlaybackEvent ν)) :
    (syncPackage rendering user platform device context events).Each Framed := by
  unfold syncPackage
  refine (each_read (quiet_idle rfl).2).bind fun held => ?_
  refine (each_foldlM (framed_syncEvent rendering user context) _ _).bind fun progress => ?_
  split
  · exact Each.bind ⟨(framed_device rfl (.inr rfl)).1, fun _ => trivial⟩ fun _ => trivial
  · exact trivial

variable {rendering user platform device context}

/-- One event: known already, or applied by a statement of its own. -/
theorem syncEvent_leads (led : Leads (syncEvent rendering user context progress event) s labels outcome s') :
    (labels = [] ∧ s' = s ∧ ∀ after, outcome = .ok after → offlineEventId rendering event ∈ progress.acceptedIds ∧
        after.acceptedIds = progress.acceptedIds ∧ after.appliedNewEvent = progress.appliedNewEvent) ∨
      (labels = [.item (appliedAs rendering user context event)] ∧
        offlineEventId rendering event ∉ progress.acceptedIds ∧ s'.devices = s.devices ∧
        ∀ after, outcome = .ok after → after.acceptedIds = insert (offlineEventId rendering event) progress.acceptedIds ∧
          after.appliedNewEvent = true) := by
  unfold syncEvent at led
  dsimp only at led
  split at led
  case isTrue known =>
    left
    cases led with
    | cut => exact ⟨rfl, rfl, nofun⟩
    | done => exact ⟨rfl, rfl, fun after same => by cases same; exact ⟨known, rfl, rfl⟩⟩
  case isFalse new =>
    have devices {effect middle} (wrote : Leads (applyOfflinePlaybackEvent user context
        (offlineEventId rendering event) event) s effect (.ok ()) middle) : middle.devices = s.devices := by
      obtain ⟨-, taken⟩ := leads_write wrote
      dsimp only at taken
      split at taken
      · cases taken
        rfl
      · cases taken
    rcases led.bind with ⟨ending, rfl, wrote⟩ | ⟨_, _, middle, _, wrote, rest, rfl⟩
    · rcases leads_write_error wrote with ⟨rfl, rfl⟩ | ⟨rfl, taken⟩
      · exact .inl ⟨rfl, rfl, nofun⟩
      · exact .inr ⟨rfl, new, devices (.sent taken (.done ..)), nofun⟩
    · have kept := devices wrote
      obtain ⟨rfl, -⟩ := leads_write wrote
      right
      cases rest with
      | cut => exact ⟨rfl, new, kept, nofun⟩
      | done => exact ⟨rfl, new, kept, fun after same => by cases same; exact ⟨rfl, rfl⟩⟩

/-- The events applied of a list: each once, and none that was known. -/
theorem events_leads {events : List (OfflinePlaybackEvent ν)}
    (led : Leads (events.foldlM (syncEvent rendering user context) progress) s labels outcome s') :
    ∃ fresh : List (OfflinePlaybackEvent ν), labels = fresh.map (fun event => .item (appliedAs rendering user context event)) ∧
      fresh ⊆ events ∧ (fresh.map (offlineEventId rendering)).Nodup ∧
      (∀ event ∈ fresh, offlineEventId rendering event ∉ progress.acceptedIds) ∧ s'.devices = s.devices ∧
      ∀ after, outcome = .ok after →
        after.acceptedIds = progress.acceptedIds ∪ (fresh.map (offlineEventId rendering)).toFinset ∧
        after.appliedNewEvent = (progress.appliedNewEvent || !fresh.isEmpty) ∧
        ∀ event ∈ events, offlineEventId rendering event ∈ after.acceptedIds := by
  induction events generalizing progress s labels with
  | nil =>
    refine ⟨[], ?_⟩
    cases led with
    | cut => exact ⟨rfl, by simp, by simp, by simp, rfl, nofun⟩
    | done => exact ⟨rfl, by simp, by simp, by simp, rfl, fun after same => by cases same; simp⟩
  | cons event _ ih =>
    rw [List.foldlM_cons] at led
    rcases led.bind with ⟨ending, rfl, one⟩ | ⟨middle, first, t, later, one, rest, rfl⟩
    · rcases syncEvent_leads one with ⟨rfl, rfl, -⟩ | ⟨rfl, new, kept, -⟩
      · exact ⟨[], rfl, by simp, by simp, by simp, rfl, nofun⟩
      · exact ⟨[event], rfl, by simp, by simp, by simpa using new, kept, nofun⟩
    · obtain ⟨fresh, rfl, listed, nodup, unknown, kept, ends⟩ := ih rest
      rcases syncEvent_leads one with ⟨rfl, rfl, known⟩ | ⟨rfl, new, same, grown⟩
      · obtain ⟨held, ids, flag⟩ := known middle rfl
        rw [ids] at unknown
        refine ⟨fresh, rfl, fun e there => List.mem_cons_of_mem _ (listed there), nodup, unknown, kept, ?_⟩
        intro after finished
        obtain ⟨all, applied, each⟩ := ends after finished
        rw [ids] at all
        rw [flag] at applied
        refine ⟨all, applied, List.forall_mem_cons.mpr ⟨?_, each⟩⟩
        rw [all]
        exact Finset.mem_union_left _ held
      · obtain ⟨ids, flag⟩ := grown middle rfl
        rw [ids] at unknown
        simp only [Finset.mem_insert, not_or] at unknown
        refine ⟨event :: fresh, rfl, List.cons_subset_cons event listed, ?_, ?_, kept.trans same, ?_⟩
        · rw [List.map_cons, List.nodup_cons]
          refine ⟨fun there => ?_, nodup⟩
          obtain ⟨twin, member, repeated⟩ := List.mem_map.mp there
          exact (unknown twin member).1 repeated
        · exact List.forall_mem_cons.mpr ⟨new, fun e there => (unknown e there).2⟩
        · intro after finished
          obtain ⟨all, applied, each⟩ := ends after finished
          rw [ids] at all
          rw [flag] at applied
          refine ⟨?_, by simp [applied], List.forall_mem_cons.mpr ⟨?_, each⟩⟩
          · rw [all, List.map_cons, List.toFinset_cons, Finset.insert_union, Finset.union_insert]
          · rw [all]
            exact Finset.mem_union_left _ (Finset.mem_insert_self ..)

end

/-- The identities of a package's events that statements with these labels have applied. -/
def appliedIds (packageId : Uuid) (labels : List Label) : List String :=
  ((applied labels).filter fun event => event.packageId = packageId).map (·.eventId)

theorem applied_append (labels others : List Label) : applied (labels ++ others) = applied labels ++ applied others :=
  List.filterMap_append

theorem appliedIds_append (packageId : Uuid) (labels others : List Label) :
    appliedIds packageId (labels ++ others) = appliedIds packageId labels ++ appliedIds packageId others := by
  unfold appliedIds
  rw [applied_append, List.filter_append, List.map_append]

/-- No statement with these labels is for the events of the package. -/
def Apart (packageId : Uuid) (labels : List Label) : Prop := ∀ label ∈ labels, label.packageId ≠ some packageId

theorem Apart.append (first : Apart packageId labels)
    (rest : Apart packageId others) : Apart packageId (labels ++ others) := List.forall_mem_append.mpr ⟨first, rest⟩

theorem Apart.absent {packageId : Uuid} {labels : List Label} (apart : Apart packageId labels) :
    ∀ event ∈ applied labels, event.packageId ≠ packageId := by
  intro event member same
  obtain ⟨label, there, is⟩ := List.mem_filterMap.mp member
  refine apart label there ?_
  cases label with
  | item =>
    cases is
    exact congrArg some same
  | _ => cases is

theorem Apart.ids (apart : Apart packageId labels) : appliedIds packageId labels = [] := by
  unfold appliedIds
  rw [List.filter_eq_nil_iff.mpr fun event member => by simpa using apart.absent event member, List.map_nil]

theorem Apart.accepted {packageId : Uuid} {labels : List Label} (apart : Apart packageId labels) :
    Label.accepted packageId ∉ labels := fun member => apart _ member rfl

/-- What a request does with the events it has of one package. -/
structure PackageLaw (rendering : Rendering) (user : AuthenticatedUser) (packageId mediaItemId : Uuid)
    (key : Uuid × String × Uuid) (events : List (OfflinePlaybackEvent ν)) (labels : List Label) (s s' : Store ν) :
    Prop where
  nodup : (appliedIds packageId labels).Nodup
  unknown : ∀ id ∈ appliedIds packageId labels, id ∉ s.accepted key
  listed : ∀ given ∈ applied labels, given.packageId = packageId → ∃ event ∈ events,
    given = ⟨packageId, offlineEventId rendering event, user.profileId, mediaItemId, event.stops⟩
  written : Label.accepted packageId ∈ labels →
    s'.accepted key = largest 500 (s.accepted key ∪ (appliedIds packageId labels).toFinset)

section
open Statements

variable {rendering : Rendering} {user : AuthenticatedUser} {platform : ClientPlatform} {device : String}
  {context : PackageContext} {s s' : Store ν} {labels : List Label}

theorem applied_items (fresh : List (OfflinePlaybackEvent ν)) :
    applied (fresh.map fun event => Label.item (appliedAs rendering user context event)) =
      fresh.map (appliedAs rendering user context) := by
  unfold applied
  rw [List.filterMap_map, ← List.filterMap_eq_map]
  rfl

theorem appliedIds_items (fresh : List (OfflinePlaybackEvent ν)) :
    appliedIds context.packageId (fresh.map fun event => Label.item (appliedAs rendering user context event)) =
      fresh.map (offlineEventId rendering) := by
  unfold appliedIds
  rw [applied_items, List.filter_eq_self.mpr (by simp [appliedAs]), List.map_map]
  rfl

theorem PackageLaw.apart (apart : Apart packageId labels) :
    PackageLaw rendering user packageId mediaItemId key events labels s s' where
  nodup := by rw [apart.ids]; exact List.nodup_nil
  unknown := by rw [apart.ids]; simp
  listed given member same := absurd same (apart.absent given member)
  written member := absurd member apart.accepted

/-- The identities kept with a row, as the request reads them. -/
theorem accepted_held (key : Uuid × String × Uuid) :
    acceptedOfflineEventIds (((s.devices.find key).map (·.metadata)).getD (.object [])) = s.accepted key := by
  unfold Store.accepted
  cases s.devices.find key <;> rfl

/-- The labels of a package's statements: the read, the events applied, and the row's. -/
def eventLabels (rendering : Rendering) (user : AuthenticatedUser) (context : PackageContext)
    (fresh : List (OfflinePlaybackEvent ν)) (tail : List Label) : List Label :=
  [.read] ++ (fresh.map (fun event => .item (appliedAs rendering user context event)) ++ tail)

theorem applied_eventLabels (fresh : List (OfflinePlaybackEvent ν)) (silent : applied tail = []) :
    applied (eventLabels rendering user context fresh tail) = fresh.map (appliedAs rendering user context) := by
  rw [eventLabels, applied_append, applied_append, applied_items, silent, List.append_nil]
  rfl

theorem appliedIds_eventLabels (fresh : List (OfflinePlaybackEvent ν)) {tail : List Label} (silent : applied tail = []) :
    appliedIds context.packageId (eventLabels rendering user context fresh tail) =
      fresh.map (offlineEventId rendering) := by
  rw [← @appliedIds_items ν rendering user context, appliedIds, applied_eventLabels _ silent, appliedIds,
    applied_items]

theorem eventLabels_own (fresh : List (OfflinePlaybackEvent ν))
    (own : ∀ label ∈ tail, label = .accepted context.packageId) :
    ∀ label ∈ eventLabels rendering user context fresh tail,
      label.packageId = none ∨ label.packageId = some context.packageId := by
  simp only [eventLabels, List.mem_append, List.mem_singleton, List.mem_map]
  rintro label (rfl | ⟨event, -, rfl⟩ | member)
  · exact .inl rfl
  · exact .inr rfl
  · rw [own label member]
    exact .inr rfl

/-- The events applied, with nothing else for them but the row written at the end. -/
theorem PackageLaw.of_fresh (listed : fresh ⊆ events) (nodup : (fresh.map (offlineEventId rendering)).Nodup)
    (unknown : ∀ event ∈ fresh, offlineEventId rendering event ∉ s.accepted key) (silent : applied tail = [])
    (written : Label.accepted context.packageId ∈ tail → s'.accepted key =
      largest 500 (s.accepted key ∪ (fresh.map (offlineEventId rendering)).toFinset)) :
    PackageLaw rendering user context.packageId context.mediaItemId key events
      (eventLabels rendering user context fresh tail) s s' := by
  have ids := @appliedIds_eventLabels ν rendering user context fresh tail silent
  refine ⟨by rwa [ids], ?_, ?_, fun member => ?_⟩
  · rw [ids]
    intro id member
    obtain ⟨event, there, rfl⟩ := List.mem_map.mp member
    exact unknown event there
  · rw [applied_eventLabels _ silent]
    intro given member _
    obtain ⟨event, there, rfl⟩ := List.mem_map.mp member
    exact ⟨event, listed there, rfl⟩
  · rw [ids]
    refine written ?_
    simpa [eventLabels] using member

theorem device_taken {update : DeviceUpdate ν}
    (taken : (if update.metadata.all storable then Except.ok (update.apply user platform device packageId s)
      else .error SyncError.database) = .ok s') : s' = update.apply user platform device packageId s := by
  split at taken
  · cases taken
    rfl
  · cases taken

theorem package_leads (led : Leads (syncPackage rendering user platform device context events) s labels outcome s') :
    PackageLaw rendering user context.packageId context.mediaItemId (user.userId, device, context.packageId) events
      labels s s' ∧ (∀ label ∈ labels, label.packageId = none ∨ label.packageId = some context.packageId) ∧
      ∀ after, outcome = .ok after → ∀ event ∈ events, offlineEventId rendering event ∈
        s.accepted (user.userId, device, context.packageId) ∪ (appliedIds context.packageId labels).toFinset := by
  unfold syncPackage at led
  rcases led.bind with ⟨ending, rfl, read⟩ | ⟨held, _, t, later, read, rest, rfl⟩
  · have silent := (quiet_leads read (each_read (quiet_idle rfl))).2
    refine ⟨.apart fun label member => ?_, fun label member => .inl (silent label member), nofun⟩
    rw [silent label member]
    exact (Option.some_ne_none _).symm
  obtain ⟨rfl, rfl, same⟩ := leads_read read
  obtain rfl := same.symm
  rcases rest.bind with ⟨ending, rfl, folded⟩ | ⟨progress, _, t, last, folded, remaining, rfl⟩
  · obtain ⟨fresh, rfl, listed, nodup, unknown, -, -⟩ := events_leads folded
    simp only [accepted_held] at unknown
    rw [← List.append_nil (fresh.map _)]
    exact ⟨.of_fresh listed nodup unknown rfl (by simp), eventLabels_own fresh (by simp), nofun⟩
  obtain ⟨fresh, rfl, listed, nodup, unknown, kept, ends⟩ := events_leads folded
  simp only [accepted_held] at unknown
  obtain ⟨ids, -, each⟩ := ends progress rfl
  simp only [accepted_held] at ids
  have answer (tail : List Label) (silent : applied tail = []) : ∀ event ∈ events, offlineEventId rendering event ∈
      s.accepted (user.userId, device, context.packageId) ∪
        (appliedIds context.packageId (eventLabels rendering user context fresh tail)).toFinset := by
    rw [appliedIds_eventLabels _ silent, ← ids]
    exact each
  split at remaining
  case isFalse =>
    obtain ⟨rfl, -⟩ := leads_done remaining
    exact ⟨.of_fresh listed nodup unknown rfl (by simp), eventLabels_own fresh (by simp), fun _ _ => answer [] rfl⟩
  case isTrue =>
    have whole (metadata : Json ν) : ((progress.update context metadata).apply user platform device context.packageId
        t).accepted (user.userId, device, context.packageId) = largest 500
          (s.accepted (user.userId, device, context.packageId) ∪ (fresh.map (offlineEventId rendering)).toFinset) := by
      rw [← ids, ← accepted_write metadata, Store.accepted, DeviceUpdate.apply, Table.find_put_self]
      cases t.devices.find (user.userId, device, context.packageId) <;> rfl
    rcases remaining.bind with ⟨ending, rfl, wrote⟩ | ⟨_, _, middle, _, wrote, ended, rfl⟩
    · rcases leads_write_error wrote with ⟨rfl, rfl⟩ | ⟨rfl, taken⟩
      · exact ⟨.of_fresh listed nodup unknown rfl (by simp), eventLabels_own fresh (by simp),
          nofun⟩
      · obtain rfl := device_taken taken
        exact ⟨.of_fresh listed nodup unknown rfl fun _ => whole _, eventLabels_own fresh (by simp),
          nofun⟩
    · obtain ⟨rfl, taken⟩ := leads_write wrote
      obtain rfl := device_taken taken
      obtain ⟨rfl, rfl⟩ := leads_done ended
      exact ⟨.of_fresh listed nodup unknown rfl fun _ => whole _, eventLabels_own fresh (by simp),
        fun _ _ => answer [.accepted context.packageId] rfl⟩

/-! ## A whole request -/

variable {events : List (OfflinePlaybackEvent ν)} {contexts : List (Uuid × PackageContext)} {packageId mediaItemId : Uuid}
  {others : List Label} {middle : Store ν}

theorem PackageLaw.then_apart {key : Uuid × String × Uuid} (same : key.2.2 = packageId)
    (law : PackageLaw rendering user packageId mediaItemId key events labels s middle) (apart : Apart packageId others)
    (frame : Frame others middle s') :
    PackageLaw rendering user packageId mediaItemId key events (labels ++ others) s s' := by
  have ids : appliedIds packageId (labels ++ others) = appliedIds packageId labels := by
    rw [appliedIds_append, apart.ids, List.append_nil]
  refine ⟨by rw [ids]; exact law.nodup, by rw [ids]; exact law.unknown, fun given member own => ?_, fun member => ?_⟩
  · rw [applied_append, List.mem_append] at member
    exact member.elim (fun before => law.listed given before own) fun later => absurd own (apart.absent given later)
  · rw [(frame.kept key (same ▸ apart.accepted)).1, ids]
    refine law.written ?_
    exact (List.mem_append.mp member).resolve_right apart.accepted

theorem PackageLaw.after_apart {key : Uuid × String × Uuid} (same : key.2.2 = packageId)
    (apart : Apart packageId labels) (frame : Frame labels s middle)
    (law : PackageLaw rendering user packageId mediaItemId key events others middle s') :
    PackageLaw rendering user packageId mediaItemId key events (labels ++ others) s s' := by
  have ids : appliedIds packageId (labels ++ others) = appliedIds packageId others := by
    rw [appliedIds_append, apart.ids, List.nil_append]
  have kept : middle.accepted key = s.accepted key := (frame.kept key (same ▸ apart.accepted)).1
  refine ⟨by rw [ids]; exact law.nodup, ?_, fun given member own => ?_, fun member => ?_⟩
  · rw [ids, ← kept]
    exact law.unknown
  · rw [applied_append, List.mem_append] at member
    exact member.elim (fun before => absurd own (apart.absent given before)) fun later => law.listed given later own
  · rw [ids, ← kept]
    exact law.written ((List.mem_append.mp member).resolve_left apart.accepted)

theorem framed_group (packageId : Uuid) (total : List String × Nat) :
    (syncGroup rendering user platform device contexts events total packageId).Each Framed := by
  unfold syncGroup
  split
  · exact trivial
  · exact (framed_package ..).bind fun _ => trivial

theorem known_of_lookup (known : ∀ entry ∈ contexts, Known user device s entry.1 entry.2)
    (found : contexts.lookup packageId = some context) : Known user device s packageId context := by
  obtain ⟨before, after, rfl, -⟩ := List.lookup_eq_some_iff.mp found
  exact known _ (List.mem_append_right _ List.mem_cons_self)

/-- The statements for the events of one package of the request. -/
theorem group_leads (known : ∀ entry ∈ contexts, Known user device s entry.1 entry.2)
    (led : Leads (syncGroup rendering user platform device contexts events total packageId) s labels outcome s') :
    (∀ id, id ≠ packageId → Apart id labels) ∧
      (Apart packageId labels ∨ ∃ context, contexts.lookup packageId = some context ∧
        PackageLaw rendering user packageId context.mediaItemId (user.userId, device, packageId)
          (events.filter (·.packageId = packageId)) labels s s') ∧
      ∀ after, outcome = .ok after → (contexts.lookup packageId).isSome → ∀ event ∈ events,
        event.packageId = packageId → offlineEventId rendering event ∈
          s.accepted (user.userId, device, packageId) ∪ (appliedIds packageId labels).toFinset := by
  unfold syncGroup at led
  cases found : contexts.lookup packageId with
  | none =>
    rw [found] at led
    obtain ⟨rfl, rfl⟩ := leads_done led
    refine ⟨fun _ _ label absurd => ?_, .inl fun label absurd => ?_, fun _ _ absurd => ?_⟩
    · cases absurd
    · cases absurd
    · cases absurd
  | some context =>
    rw [found] at led
    obtain ⟨rfl, -⟩ := known_of_lookup known found
    have whole {outcome : Except (Ending SyncError) Progress} {labels : List Label}
        (led : Leads (syncPackage rendering user platform device context
          (events.filter (·.packageId = context.packageId))) s labels outcome s') :
        (∀ id, id ≠ context.packageId → Apart id labels) ∧
        PackageLaw rendering user context.packageId context.mediaItemId (user.userId, device, context.packageId)
          (events.filter (·.packageId = context.packageId)) labels s s' ∧
        ∀ after, outcome = .ok after → ∀ event ∈ events, event.packageId = context.packageId →
          offlineEventId rendering event ∈ s.accepted (user.userId, device, context.packageId) ∪
            (appliedIds context.packageId labels).toFinset := by
      obtain ⟨law, own, answer⟩ := package_leads led
      refine ⟨fun id other label member same => ?_, law, fun after ended event member named =>
        answer after ended event (List.mem_filter.mpr ⟨member, by simpa using named⟩)⟩
      rcases own label member with none | some
      · rw [none] at same
        cases same
      · exact other (Option.some.inj (same.symm.trans some))
    rcases led.bind with ⟨ending, rfl, one⟩ | ⟨progress, _, t, _, one, ended, rfl⟩
    · obtain ⟨apart, law, -⟩ := whole one
      exact ⟨apart, .inr ⟨context, rfl, law⟩, nofun⟩
    · obtain ⟨rfl, rfl⟩ := leads_done ended
      obtain ⟨apart, law, answer⟩ := whole one
      rw [List.append_nil]
      exact ⟨apart, .inr ⟨context, rfl, law⟩, fun _ _ _ => answer progress rfl⟩

theorem groups_leads {packageIds : List Uuid} (nodup : packageIds.Nodup)
    (known : ∀ entry ∈ contexts, Known user device s entry.1 entry.2)
    (led : Leads (packageIds.foldlM (syncGroup rendering user platform device contexts events) total) s labels outcome
      s') :
    (∀ id, id ∉ packageIds → Apart id labels) ∧
      (∀ id ∈ packageIds, Apart id labels ∨ ∃ context, contexts.lookup id = some context ∧
        PackageLaw rendering user id context.mediaItemId (user.userId, device, id) (events.filter (·.packageId = id))
          labels s s') ∧
      ∀ after, outcome = .ok after → ∀ id ∈ packageIds, (contexts.lookup id).isSome → ∀ event ∈ events,
        event.packageId = id → offlineEventId rendering event ∈
          s.accepted (user.userId, device, id) ∪ (appliedIds id labels).toFinset := by
  induction packageIds generalizing total s labels with
  | nil =>
    obtain ⟨rfl, rfl⟩ := leads_done led
    exact ⟨fun _ _ => List.forall_mem_nil _, by simp, by simp⟩
  | cons packageId _ ih =>
    obtain ⟨absent, distinct⟩ := List.nodup_cons.mp nodup
    rw [List.foldlM_cons] at led
    rcases led.bind with ⟨ending, rfl, one⟩ | ⟨after, first, t, later, one, rest, rfl⟩
    · obtain ⟨apart, own, -⟩ := group_leads known one
      refine ⟨fun id other => apart id fun same => other (same ▸ List.mem_cons_self), List.forall_mem_cons.mpr ⟨own, ?_⟩,
        nofun⟩
      exact fun id member => .inl (apart id fun same => absent (same ▸ member))
    · obtain ⟨apart, own, answer⟩ := group_leads known one
      have frame := framed_leads one (framed_group packageId total)
      have going := framed_leads rest (each_foldlM (fun total id => framed_group id total) _ _)
      obtain ⟨outside, within, answers⟩ := ih distinct (fun entry member => (known entry member).of_frame frame) rest
      refine ⟨fun id other => ?_, List.forall_mem_cons.mpr ⟨?_, fun id member => ?_⟩, fun final ended => ?_⟩
      · rw [List.mem_cons, not_or] at other
        exact (apart id other.1).append (outside id other.2)
      · rcases own with idle | ⟨context, found, law⟩
        · exact .inl (idle.append (outside _ absent))
        · exact .inr ⟨context, found, law.then_apart rfl (outside _ absent) going⟩
      · have other : id ≠ packageId := fun same => absent (same ▸ member)
        rcases within id member with idle | ⟨context, found, law⟩
        · exact .inl ((apart id other).append idle)
        · exact .inr ⟨context, found, .after_apart rfl (apart id other) frame law⟩
      · refine List.forall_mem_cons.mpr ⟨fun found event member named => ?_, fun id listed found event member named => ?_⟩
        · rw [appliedIds_append, (outside _ absent).ids, List.append_nil]
          exact answer after rfl found event member named
        · have other : id ≠ packageId := fun same => absent (same ▸ listed)
          have there := answers final ended id listed found event member named
          rw [(frame.kept (user.userId, device, id) (apart id other).accepted).1] at there
          rwa [appliedIds_append, (apart id other).ids, List.nil_append]

variable {draw : Draw} {req : DownloadSyncRequest ν}

theorem require_leads (led : Leads (requireDeviceIdentifier value : Sync ν String) s labels outcome s') :
    labels = [] ∧ s = s' ∧ ∀ found, outcome = .ok found → found = String.ofList (Text.trim value.toList) := by
  unfold requireDeviceIdentifier at led
  dsimp only at led
  split at led
  · cases led <;> exact ⟨rfl, rfl, nofun⟩
  split at led
  · cases led <;> exact ⟨rfl, rfl, nofun⟩
  · cases led
    · exact ⟨rfl, rfl, nofun⟩
    · exact ⟨rfl, rfl, fun _ same => (Except.ok.inj same).symm⟩

/-- What a request does with the events of its packages, and with those of a package it has none for. -/
structure SyncLaw (rendering : Rendering) (user : AuthenticatedUser) (req : DownloadSyncRequest ν)
    (labels : List Label) (s s' : Store ν) : Prop where
  frame : Frame labels s s'
  packages : ∀ id, Apart id labels ∨ ∃ row, s.packages.find id = some row ∧ row.userId = user.userId ∧
    PackageLaw rendering user id row.mediaItemId (row.userId, row.deviceIdentifier, id)
      (req.playbackEvents.filter (·.packageId = id)) labels s s'

theorem SyncLaw.of_quiet (quiet : Frame labels s s' ∧ ∀ label ∈ labels, label.packageId = none) :
    SyncLaw rendering user req labels s s' := by
  refine ⟨quiet.1, fun id => .inl fun label member => ?_⟩
  rw [quiet.2 label member]
  exact (Option.some_ne_none id).symm

theorem Apart.of_quiet (quiet : ∀ label ∈ labels, label.packageId = none) : Apart packageId labels := by
  intro label member
  rw [quiet label member]
  exact (Option.some_ne_none _).symm

theorem Known.row (known : Known user device s packageId context) :
    ∃ row, s.packages.find packageId = some row ∧ row.userId = user.userId ∧ row.deviceIdentifier = device ∧
      row.mediaItemId = context.mediaItemId ∧ row.mediaFileId = context.mediaFileId := by
  obtain ⟨row, found, same⟩ := Option.map_eq_some_iff.mp known.2
  simp only [DownloadPackage.lasting, Prod.mk.injEq] at same
  exact ⟨row, found, same⟩

theorem SyncLaw.then_quiet (law : SyncLaw rendering user req labels s middle)
    (quiet : Frame others middle s' ∧ ∀ label ∈ others, label.packageId = none) :
    SyncLaw rendering user req (labels ++ others) s s' := by
  refine ⟨law.frame.append quiet.1, fun id => ?_⟩
  rcases law.packages id with apart | ⟨row, found, owner, own⟩
  · exact .inl (apart.append (.of_quiet quiet.2))
  · exact .inr ⟨row, found, owner, own.then_apart rfl (.of_quiet quiet.2) quiet.1⟩

theorem sync_leads (led : Leads (syncDownloadState rendering draw user req) s labels outcome s') :
    SyncLaw rendering user req labels s s' ∧ ∀ response, outcome = .ok response → ∀ event ∈ req.playbackEvents,
      ∃ row, s.packages.find event.packageId = some row ∧ offlineEventId rendering event ∈
        s.accepted (row.userId, row.deviceIdentifier, event.packageId) ∪ (appliedIds event.packageId labels).toFinset := by
  unfold syncDownloadState at led
  rcases led.bind with ⟨ending, rfl, one⟩ | ⟨device, _, _, _, one, required, rfl⟩
  · obtain ⟨rfl, rfl, -⟩ := require_leads one
    exact ⟨.of_quiet ⟨.nil _, by simp⟩, nofun⟩
  obtain ⟨rfl, rfl, -⟩ := require_leads one
  rcases required.bind with ⟨ending, rfl, load⟩ | ⟨contexts, first, loaded, _, load, held, rfl⟩
  · exact ⟨.of_quiet (quiet_leads load (quiet_contexts ..)), nofun⟩
  have loading := quiet_leads load (quiet_contexts ..)
  obtain ⟨names, known⟩ := contexts_known _ load
  rcases held.bind with ⟨ending, rfl, states⟩ | ⟨accepted, second, stated, _, states, written, rfl⟩
  · have stating := quiet_leads states (quiet_states ..)
    rw [List.nil_append]
    exact ⟨.of_quiet ⟨loading.1.append stating.1, List.forall_mem_append.mpr ⟨loading.2, stating.2⟩⟩,
      nofun⟩
  have stating := quiet_leads states (quiet_states ..)
  have before := loading.1.append stating.1
  have silent : ∀ label ∈ first ++ second, label.packageId = none :=
    List.forall_mem_append.mpr ⟨loading.2, stating.2⟩
  have placed := fun entry member => (known entry member).of_frame stating.1
  have whole {groups : List Label} {outcome : Except (Ending SyncError) (List String × Nat)} {after : Store ν}
      (one : Leads ((draw.groups.order (req.playbackEvents.map (·.packageId)).dedup).foldlM
        (syncGroup rendering user req.clientPlatform device contexts req.playbackEvents) ([], 0)) stated groups outcome
        after) : SyncLaw rendering user req (first ++ second ++ groups) s after ∧
      ∀ response, outcome = .ok response → ∀ event ∈ req.playbackEvents,
        ∃ row, s.packages.find event.packageId = some row ∧ offlineEventId rendering event ∈
          s.accepted (row.userId, row.deviceIdentifier, event.packageId) ∪
            (appliedIds event.packageId (first ++ second ++ groups)).toFinset := by
    have frame := framed_leads one (each_foldlM (fun total id => framed_group id total) _ _)
    have distinct : (draw.groups.order (req.playbackEvents.map (·.packageId)).dedup).Nodup :=
      (draw.groups.order_perm _).nodup_iff.mpr (List.nodup_dedup _)
    obtain ⟨outside, within, answers⟩ := groups_leads distinct placed one
    have held {id : Uuid} {context : PackageContext} (found : contexts.lookup id = some context) :
        ∃ row, s.packages.find id = some row ∧ row.userId = user.userId ∧ row.deviceIdentifier = device ∧
          row.mediaItemId = context.mediaItemId := by
      obtain ⟨own, loaded⟩ := known_of_lookup placed found
      rw [before.packages] at loaded
      have known : Known user device s id context := ⟨own, loaded⟩
      obtain ⟨row, there, owner, own, item, -⟩ := known.row
      exact ⟨row, there, owner, own, item⟩
    refine ⟨⟨before.append frame, fun id => ?_⟩, fun response ended event member => ?_⟩
    · by_cases listed : id ∈ draw.groups.order (req.playbackEvents.map (·.packageId)).dedup
      · rcases within id listed with apart | ⟨context, found, law⟩
        · exact .inl (.append (.of_quiet silent) apart)
        · obtain ⟨row, there, owner, own, item⟩ := held found
          refine .inr ⟨row, there, owner, ?_⟩
          rw [owner, own, item]
          exact .after_apart rfl (.of_quiet silent) before law
      · exact .inl (.append (.of_quiet silent) (outside id listed))
    · have listed : event.packageId ∈ draw.groups.order (req.playbackEvents.map (·.packageId)).dedup :=
        (draw.groups.order_perm _).mem_iff.mpr (List.mem_dedup.mpr (List.mem_map_of_mem member))
      have named : event.packageId ∈ contexts.map Prod.fst := by
        rw [names]
        refine (draw.packages.order_perm _).mem_iff.mpr (List.mem_dedup.mpr ?_)
        exact List.mem_append_right _ (List.mem_map_of_mem member)
      obtain ⟨context, found⟩ : ∃ context, contexts.lookup event.packageId = some context := by
        rw [← Option.isSome_iff_exists, List.lookup_isSome_iff]
        obtain ⟨entry, there, same⟩ := List.mem_map.mp named
        exact ⟨entry, there, by simp [same]⟩
      obtain ⟨row, there, owner, own, -⟩ := held found
      refine ⟨row, there, ?_⟩
      have kept := (before.kept (user.userId, device, event.packageId) (Apart.of_quiet silent).accepted).1
      have answer := answers response ended event.packageId listed (by simp [found]) event member rfl
      rwa [owner, own, appliedIds_append, (Apart.of_quiet silent).ids, List.nil_append, ← kept]
  rcases written.bind with ⟨ending, rfl, groups⟩ | ⟨total, third, grouped, _, groups, recorded, rfl⟩
  · obtain ⟨law, -⟩ := whole groups
    rw [List.nil_append, ← List.append_assoc]
    exact ⟨law, nofun⟩
  · obtain ⟨law, answers⟩ := whole groups
    have recording := quiet_leads recorded ((each_write (quiet_idle rfl)).bind fun _ => trivial)
    rw [List.nil_append, ← List.append_assoc, ← List.append_assoc]
    refine ⟨law.then_quiet recording, fun _ _ event member => ?_⟩
    obtain ⟨row, found, answered⟩ := answers total rfl event member
    refine ⟨row, found, ?_⟩
    rwa [appliedIds_append, (Apart.of_quiet recording.2).ids, List.append_nil]

end

end Duskcue.OfflineSync
