import Duskcue.OfflineSyncSteps

/-! Each event of a package changes the playback data of its item at most once, however often
its device hands it in: as long as no request stops between an event and the row
of the package's identities, and an event that is handed in again is still one of the 500
whose identities that row keeps. -/
namespace Duskcue.OfflineSync
open Playback (Uuid Time)
open Statements (Leads exists_value leads_run)

variable {ν : Type}

/-! ## Runs -/

/-- A request a device sends, and how many statements it gets through. -/
structure Attempt (ν : Type) where
  draw : Draw
  user : AuthenticatedUser
  req : DownloadSyncRequest ν
  budget : Nat

/-- The store, and the labels of the statements that have taken effect on it. -/
structure System (ν : Type) where
  store : Store ν
  sent : List Label := []

variable (rendering : Rendering)

def System.execution (sys : System ν) (attempt : Attempt ν) :
    Statements.Execution (Store ν) Label SyncError DownloadSyncResponse :=
  (syncDownloadState rendering attempt.draw attempt.user attempt.req).run attempt.budget sys.store

def System.attempt (sys : System ν) (attempt : Attempt ν) : System ν :=
  let ended := sys.execution rendering attempt
  ⟨ended.store, sys.sent ++ ended.sent⟩

def System.run (sys : System ν) (attempts : List (Attempt ν)) : System ν := attempts.foldl (System.attempt rendering) sys

/-- Where an event of a package has taken effect, the package's identities have been written. -/
def Settled (labels : List Label) : Prop := ∀ event ∈ applied labels, Label.accepted event.packageId ∈ labels

/-- An event that is handed in again is among the 500 of the largest identities. -/
def Remembered (sys : System ν) (req : DownloadSyncRequest ν) : Prop :=
  ∀ event ∈ req.playbackEvents, offlineEventId rendering event ∈ appliedIds event.packageId sys.sent →
    offlineEventId rendering event ∈ largest 500 (appliedIds event.packageId sys.sent).toFinset

/-- No attempt stops between an event and its identity, nor hands in an event forgotten. -/
def Fair (sys : System ν) : List (Attempt ν) → Prop
  | [] => True
  | attempt :: rest =>
    Remembered rendering sys attempt.req ∧ Settled (sys.execution rendering attempt).sent ∧
      Fair (sys.attempt rendering attempt) rest

/-- An attempt that has been answered held the event. -/
def Answered (sys : System ν) (event : OfflinePlaybackEvent ν) : List (Attempt ν) → Prop
  | [] => False
  | attempt :: rest =>
    (event ∈ attempt.req.playbackEvents ∧ (sys.execution rendering attempt).outcome.toBool) ∨
      Answered (sys.attempt rendering attempt) event rest

instance (labels : List Label) : Decidable (Settled labels) := inferInstanceAs (Decidable (∀ _ ∈ _, _))

instance (sys : System ν) (req : DownloadSyncRequest ν) : Decidable (Remembered rendering sys req) :=
  inferInstanceAs (Decidable (∀ _ ∈ _, _))

instance decidableFair : (sys : System ν) → (attempts : List (Attempt ν)) → Decidable (Fair rendering sys attempts)
  | _, [] => .isTrue trivial
  | sys, attempt :: rest =>
    have := decidableFair (sys.attempt rendering attempt) rest
    inferInstanceAs (Decidable (_ ∧ _ ∧ _))

def submitted (attempts : List (Attempt ν)) : List (OfflinePlaybackEvent ν) :=
  attempts.flatMap fun attempt => attempt.req.playbackEvents

/-- The item whose playback data the events of a package change. -/
def Store.itemOf (s : Store ν) (packageId : Uuid) : Option Uuid := (s.packages.find packageId).map (·.mediaItemId)

/-- The identities of the stops handed in for an item, each within its package. -/
def stopsFor (start : Store ν) (mediaItemId : Uuid) (attempts : List (Attempt ν)) : Finset (Uuid × String) :=
  (((submitted attempts).filter fun event => event.stops && start.itemOf event.packageId = some mediaItemId).map
    fun event => (event.packageId, offlineEventId rendering event)).toFinset

/-! ## The invariant -/

def Applied.key (event : Applied) : Uuid × String := (event.packageId, event.eventId)

theorem nodup_keys {events : List Applied}
    (each : ∀ id, ((events.filter fun event => event.packageId = id).map (·.eventId)).Nodup) :
    (events.map Applied.key).Nodup := by
  induction events with
  | nil => exact List.nodup_nil
  | cons event events ih =>
    rw [List.map_cons, List.nodup_cons]
    constructor
    · intro repeated
      obtain ⟨twin, member, same⟩ := List.mem_map.mp repeated
      obtain ⟨package, id⟩ := Prod.mk.inj same
      have own := each event.packageId
      rw [List.filter_cons_of_pos (by simp), List.map_cons, List.nodup_cons] at own
      exact own.1 (List.mem_map.mpr ⟨twin, List.mem_filter.mpr ⟨member, by simpa using package⟩, id⟩)
    · refine ih fun id => (each id).sublist ?_
      exact ((List.sublist_cons_self event events).filter _).map _

/-- The identities kept of a package are the largest of those its events were applied under,
and each of these once. -/
structure Kept (sys : System ν) : Prop where
  nodup : ∀ id, (appliedIds id sys.sent).Nodup
  accepted : ∀ id row, sys.store.packages.find id = some row →
    sys.store.accepted (row.userId, row.deviceIdentifier, id) = largest 500 (appliedIds id sys.sent).toFinset

variable {rendering} {sys : System ν} {turn : Attempt ν}

theorem execution_leads (rendering : Rendering) (sys : System ν) (turn : Attempt ν) :
    Leads (syncDownloadState rendering turn.draw turn.user turn.req) sys.store (sys.execution rendering turn).sent
      (sys.execution rendering turn).outcome (sys.execution rendering turn).store := leads_run ..

/-- A package without identities written has had no event take effect. -/
theorem Settled.unwritten (settled : Settled labels) {id : Uuid}
    (unwritten : Label.accepted id ∉ labels) : appliedIds id labels = [] := by
  unfold appliedIds
  rw [List.map_eq_nil_iff, List.filter_eq_nil_iff]
  rintro event member same
  exact unwritten (of_decide_eq_true same ▸ settled event member)

theorem Kept.attempt (kept : Kept sys) (remembered : Remembered rendering sys turn.req)
    (settled : Settled (sys.execution rendering turn).sent) : Kept (sys.attempt rendering turn) := by
  obtain ⟨law, -⟩ := sync_leads (execution_leads rendering sys turn)
  refine ⟨fun id => ?_, fun id after found => ?_⟩
  · rw [System.attempt, appliedIds_append]
    rcases law.packages id with apart | ⟨row, found, -, own⟩
    · rw [apart.ids, List.append_nil]
      exact kept.nodup id
    · refine List.nodup_append.mpr ⟨kept.nodup id, own.nodup, ?_⟩
      rintro x before y later rfl
      apply own.unknown x later
      rw [kept.accepted id row found]
      obtain ⟨given, member, rfl⟩ := List.mem_map.mp later
      obtain ⟨there, named⟩ := List.mem_filter.mp member
      obtain ⟨event, listed, rfl⟩ := own.listed given there (by simpa using named)
      obtain ⟨handed, same⟩ := List.mem_filter.mp listed
      obtain rfl := of_decide_eq_true same
      exact remembered event handed before
  · obtain ⟨row, there, same⟩ : ∃ row, sys.store.packages.find id = some row ∧ row.lasting = after.lasting := by
      have frame := law.frame.packages id
      rw [System.attempt] at found
      rw [found, Option.map_some, eq_comm, Option.map_eq_some_iff] at frame
      exact frame
    simp only [DownloadPackage.lasting, Prod.mk.injEq] at same
    rw [← same.1, ← same.2.1, System.attempt, appliedIds_append, List.toFinset_append, ← largest_union,
      ← kept.accepted id row there]
    by_cases written : Label.accepted id ∈ (sys.execution rendering turn).sent
    · rcases law.packages id with apart | ⟨held, found, -, own⟩
      · exact absurd written apart.accepted
      · cases found.symm.trans there
        exact own.written written
    · rw [settled.unwritten written, List.toFinset_nil, Finset.union_empty, (law.frame.kept _ written).1,
        kept.accepted id row there, largest_largest]

theorem Kept.run (kept : Kept sys) (fair : Fair rendering sys attempts) :
    Kept (sys.run rendering attempts) := by
  induction attempts generalizing sys with
  | nil => exact kept
  | cons _ _ ih => exact ih (kept.attempt fair.1 fair.2.1) fair.2.2

theorem Frame.itemOf {s s' : Store ν} (frame : Frame labels s s') (id : Uuid) : s'.itemOf id = s.itemOf id := by
  have item (t : Store ν) : t.itemOf id = ((t.packages.find id).map (·.lasting)).map (·.2.2.1) := by
    rw [Store.itemOf, Option.map_map]
    rfl
  rw [item, item, frame.packages]

/-- The event a statement of a run has applied is one handed in. -/
def Handed (rendering : Rendering) (s : Store ν) (attempts : List (Attempt ν)) (given : Applied) : Prop :=
  ∃ turn ∈ attempts, ∃ event ∈ turn.req.playbackEvents, s.itemOf event.packageId = some given.mediaItemId ∧
    given.packageId = event.packageId ∧ given.eventId = offlineEventId rendering event ∧
    given.profileId = turn.user.profileId ∧ given.stops = event.stops

theorem handed_attempt (member : given ∈ applied (sys.execution rendering turn).sent) :
    Handed rendering sys.store [turn] given := by
  obtain ⟨law, -⟩ := sync_leads (execution_leads rendering sys turn)
  rcases law.packages given.packageId with apart | ⟨row, found, -, own⟩
  · exact absurd rfl (apart.absent given member)
  · obtain ⟨event, listed, is⟩ := own.listed given member rfl
    obtain ⟨handed, same⟩ := List.mem_filter.mp listed
    have named := of_decide_eq_true same
    refine ⟨turn, List.mem_singleton_self _, event, handed, ?_, named.symm, by rw [is], by rw [is], by rw [is]⟩
    rw [Store.itemOf, named, found, is]
    rfl

/-- What the statements of a run do, and where the events they apply are from. -/
theorem run_frame (rendering : Rendering) (sys : System ν) (attempts : List (Attempt ν)) :
    ∃ labels, (sys.run rendering attempts).sent = sys.sent ++ labels ∧
      Frame labels sys.store (sys.run rendering attempts).store ∧
      ∀ given ∈ applied labels, Handed rendering sys.store attempts given := by
  induction attempts generalizing sys with
  | nil => exact ⟨[], (List.append_nil _).symm, .nil _, by simp [applied]⟩
  | cons turn _ ih =>
    have frame := (sync_leads (execution_leads rendering sys turn)).1.frame
    obtain ⟨later, grown, going, from'⟩ := ih (sys.attempt rendering turn)
    refine ⟨(sys.execution rendering turn).sent ++ later, ?_, frame.append going, fun given member => ?_⟩
    · rw [System.run, List.foldl_cons, ← List.append_assoc]
      exact grown
    · rw [applied_append, List.mem_append] at member
      rcases member with now | after
      · obtain ⟨_, one, event, handed⟩ := handed_attempt now
        obtain rfl := List.mem_singleton.mp one
        exact ⟨_, List.mem_cons_self, event, handed⟩
      · obtain ⟨other, there, event, handed, item, same⟩ := from' given after
        exact ⟨other, List.mem_cons_of_mem _ there, event, handed, (frame.itemOf _).symm.trans item, same⟩

theorem answered_applied (kept : Kept sys)
    (fair : Fair rendering sys attempts) (answered : Answered rendering sys event attempts) :
    offlineEventId rendering event ∈ appliedIds event.packageId (sys.run rendering attempts).sent := by
  induction attempts generalizing sys with
  | nil => exact answered.elim
  | cons turn rest ih =>
    rcases answered with ⟨handed, success⟩ | later
    · obtain ⟨response, ended⟩ := exists_value success
      obtain ⟨row, found, there⟩ := (sync_leads (execution_leads rendering sys turn)).2 response ended event handed
      obtain ⟨labels, grown, -⟩ := run_frame rendering (sys.attempt rendering turn) rest
      rw [System.run, List.foldl_cons]
      change offlineEventId rendering event ∈ appliedIds event.packageId
        ((sys.attempt rendering turn).run rendering rest).sent
      rw [grown, appliedIds_append, System.attempt, appliedIds_append, List.append_assoc, List.mem_append,
        List.mem_append]
      rcases Finset.mem_union.mp there with before | now
      · rw [kept.accepted _ _ found] at before
        exact .inl (List.mem_toFinset.mp (largest_subset before))
      · exact .inr (.inl (List.mem_toFinset.mp now))
    · exact ih (kept.attempt fair.1 fair.2.1) fair.2.2 later

theorem Kept.start {start : Store ν} (unsent : ∀ key, start.accepted key = ∅) : Kept (⟨start, []⟩ : System ν) := by
  refine ⟨fun _ => List.nodup_nil, fun id row _ => ?_⟩
  rw [unsent]
  rfl

/-! ## Every event once -/

/-- However often a device hands its events in, each changes the playback data of its item at
most once, and once all have been answered the plays counted are those of the stops handed in. -/
theorem events_counted_once {rendering : Rendering} {start : Store ν} (unsent : ∀ key, start.accepted key = ∅)
    {attempts : List (Attempt ν)} (fair : Fair rendering ⟨start, []⟩ attempts) :
    (∀ packageId eventId,
      (appliedIds packageId ((⟨start, []⟩ : System ν).run rendering attempts).sent).count eventId ≤ 1) ∧
    ∀ profileId, (∀ turn ∈ attempts, turn.user.profileId = profileId) →
      (∀ event ∈ submitted attempts, Answered rendering ⟨start, []⟩ event attempts) →
      (∀ event ∈ submitted attempts, ∀ other ∈ submitted attempts, event.packageId = other.packageId →
        offlineEventId rendering event = offlineEventId rendering other → event.stops = other.stops) →
      ∀ mediaItemId, ((⟨start, []⟩ : System ν).run rendering attempts).store.plays (profileId, mediaItemId) =
        start.plays (profileId, mediaItemId) + (stopsFor rendering start mediaItemId attempts).card := by
  have kept := (Kept.start unsent).run fair
  refine ⟨fun packageId eventId => List.nodup_iff_count_le_one.mp (kept.nodup packageId) eventId,
    fun profileId own retried identified mediaItemId => ?_⟩
  obtain ⟨labels, grown, frame, handed⟩ := run_frame rendering (⟨start, []⟩ : System ν) attempts
  rw [List.nil_append] at grown
  have distinct : (((applied labels).filter (Applied.counts (profileId, mediaItemId))).map Applied.key).Nodup := by
    refine (nodup_keys fun id => ?_).sublist (List.filter_sublist.map _)
    rw [← grown]
    exact kept.nodup id
  have counted : (((applied labels).filter (Applied.counts (profileId, mediaItemId))).map Applied.key).toFinset =
      stopsFor rendering start mediaItemId attempts := by
    ext key
    simp only [stopsFor, List.mem_toFinset, List.mem_map, List.mem_filter]
    constructor
    · rintro ⟨given, ⟨member, counts⟩, rfl⟩
      obtain ⟨turn, there, event, listed, item, package, id, -, stops⟩ := handed given member
      simp only [Applied.counts, Bool.and_eq_true, beq_iff_eq, Prod.mk.injEq] at counts
      refine ⟨event, ⟨List.mem_flatMap.mpr ⟨turn, there, listed⟩, ?_⟩, Prod.ext package.symm id.symm⟩
      rw [Bool.and_eq_true, decide_eq_true_eq, ← stops, item, counts.2.2]
      exact ⟨counts.1, rfl⟩
    · rintro ⟨event, ⟨member, chosen⟩, rfl⟩
      rw [Bool.and_eq_true, decide_eq_true_eq] at chosen
      have there := answered_applied (Kept.start unsent) fair (retried event member)
      rw [grown] at there
      obtain ⟨given, found, id⟩ := List.mem_map.mp there
      obtain ⟨found, package⟩ := List.mem_filter.mp found
      have package := of_decide_eq_true package
      obtain ⟨turn, sent, other, listed, item, named, same, profile, stops⟩ := handed given found
      have other_stops : event.stops = other.stops := by
        refine identified event member other (List.mem_flatMap.mpr ⟨turn, sent, listed⟩) ?_ ?_
        · rw [← package, named]
        · rw [← id, same]
      refine ⟨given, ⟨found, ?_⟩, Prod.ext package id⟩
      rw [Applied.counts, Bool.and_eq_true, beq_iff_eq, Prod.mk.injEq, stops, ← other_stops, profile, own turn sent]
      refine ⟨chosen.1, rfl, ?_⟩
      rw [← named, package] at item
      exact Option.some.inj (item.symm.trans chosen.2)
  rw [frame.plays, ← counted, List.toFinset_card_of_nodup distinct, List.length_map, List.countP_eq_length_filter]

namespace Sample

def attempt (budget : Nat) : Attempt Unit := ⟨draw, user, ⟨"d", .ios, [], [stop]⟩, budget⟩

end Sample

/-- A stop is counted once: the first attempt comes to nothing, the second is answered, the
third hands it in again. -/
theorem stop_counted : Fair Sample.texts (⟨Sample.store, []⟩ : System Unit)
      [Sample.attempt 0, Sample.attempt 9, Sample.attempt 9] ∧
    ((⟨Sample.store, []⟩ : System Unit).run Sample.texts
      [Sample.attempt 0, Sample.attempt 9, Sample.attempt 9]).store.plays (3, 5) = 1 := by
  have fair : Fair Sample.texts (⟨Sample.store, []⟩ : System Unit)
      [Sample.attempt 0, Sample.attempt 9, Sample.attempt 9] := by decide +kernel
  have single : ∀ event ∈ submitted [Sample.attempt 0, Sample.attempt 9, Sample.attempt 9], event = Sample.stop := by
    simp [submitted, Sample.attempt]
  have counted := (events_counted_once (fun _ => rfl) fair).2 3 (by simp [Sample.attempt, Sample.user]) ?_ ?_ 5
  · refine ⟨fair, counted.trans ?_⟩
    decide +kernel
  · intro event member
    rw [single event member]
    exact .inr (.inl ⟨List.mem_singleton_self _, by decide +kernel⟩)
  · intro event member other also _ _
    rw [single event member, single other also]

/-- A request that stops behind the statement of an event, before the one of its identity: the
attempt that follows counts the play again. -/
theorem stop_counted_twice : (∀ key, Sample.store.accepted key = ∅) ∧
    (stopsFor Sample.texts Sample.store 5 [Sample.attempt 4, Sample.attempt 9]).card = 1 ∧
    Answered Sample.texts (⟨Sample.store, []⟩ : System Unit) Sample.stop [Sample.attempt 4, Sample.attempt 9] ∧
    ((⟨Sample.store, []⟩ : System Unit).run Sample.texts
      [Sample.attempt 4, Sample.attempt 9]).store.plays (3, 5) = 2 := by
  refine ⟨fun _ => rfl, by decide +kernel, .inr (.inl ⟨List.mem_singleton_self _, ?_⟩), ?_⟩ <;> decide +kernel

end Duskcue.OfflineSync
