import Duskcue.PlaySession

/-! What a heartbeat, a stop and a cancellation do to the row of their session and to
the plays: one lemma for each statement and one for each request. -/
namespace Duskcue.PlaySession
open Playback (Uuid Time second)
open Transaction

variable {ν : Type} {env : Formats ν} {s s' : Store ν} {id : Uuid} {row row' : Row ν}

/-! ## Turns -/

/-- The columns no request writes. -/
structure Row.Kept (row row' : Row ν) : Prop where
  userId : row'.userId = row.userId
  profileId : row'.profileId = row.profileId
  mediaItemId : row'.mediaItemId = row.mediaItemId
  playbackMode : row'.playbackMode = row.playbackMode
  startedAt : row'.startedAt = row.startedAt

theorem Row.Kept.refl (row : Row ν) : row.Kept row := ⟨rfl, rfl, rfl, rfl, rfl⟩

theorem Row.Kept.trans (first : row.Kept row') (second : row'.Kept row'') : row.Kept row'' where
  userId := second.userId.trans first.userId
  profileId := second.profileId.trans first.profileId
  mediaItemId := second.mediaItemId.trans first.mediaItemId
  playbackMode := second.playbackMode.trans first.playbackMode
  startedAt := second.startedAt.trans first.startedAt

theorem Row.Kept.countsFor (kept : row.Kept row') : row'.countsFor = row.countsFor := by
  unfold Row.countsFor
  rw [kept.playbackMode, kept.profileId]

/-- Numbers that a snapshot can be read back with. -/
def StopSnapshot.Fits (snapshot : StopSnapshot ν) : Prop :=
  isI32 snapshot.durationSeconds ∧ isI32 snapshot.playCount

theorem asI32_of_isI32 (fits : isI32 value) : (Json.integer value : Json ν).asI32 = some value := by
  obtain ⟨low, high⟩ := (Bool.and_eq_true _ _).mp fits
  have low := of_decide_eq_true low
  have high := of_decide_eq_true high
  unfold i32Max at high
  exact if_pos ⟨low, by omega⟩

theorem StopSnapshot.fromValue_toValue {snapshot : StopSnapshot ν} (fits : snapshot.Fits) :
    StopSnapshot.fromValue env snapshot.toValue = some snapshot := by
  obtain ⟨duration, count⟩ := fits
  have durationRead := asI32_of_isI32 (ν := ν) duration
  have countRead := asI32_of_isI32 (ν := ν) count
  cases snapshot with
  | mk _ percentComplete =>
    cases percentComplete <;>
      simp_all [fromValue, toValue, Json.get, List.lookup_cons, optionalFraction, Json.asBool]

/-- The session was heard: it stays open. -/
structure Row.Heard (row row' : Row ν) : Prop where
  kept : row.Kept row'
  before : row.stoppedAt = none
  after : row'.stoppedAt = none
  flag : cancelledBeforeStart row'.metadata = cancelledBeforeStart row.metadata
  beat : (row'.metadata.find "last_heartbeat_at").isSome

/-- The session was stopped for the first time, with this result. -/
structure Row.Stopped (env : Formats ν) (row row' : Row ν) (snapshot : StopSnapshot ν) : Prop where
  kept : row.Kept row'
  before : row.stoppedAt = none
  after : row'.stoppedAt.isSome
  unflagged : cancelledBeforeStart row.metadata = false
  flag : cancelledBeforeStart row'.metadata = false
  beat : row'.metadata.find "last_heartbeat_at" = row.metadata.find "last_heartbeat_at"
  result : row'.metadata.find resultKey = some snapshot.toValue
  transcode : transcodeId env row'.metadata = transcodeId env row.metadata

/-- The session was cancelled, perhaps once more. -/
structure Row.Cancelled (row row' : Row ν) : Prop where
  kept : row.Kept row'
  before : (row.stoppedAt = none ∧ row.metadata.find "last_heartbeat_at" = none) ∨
    cancelledBeforeStart row.metadata = true
  after : row'.stoppedAt.isSome
  flag : cancelledBeforeStart row'.metadata = true
  beat : row'.metadata.find "last_heartbeat_at" = row.metadata.find "last_heartbeat_at"

/-- The plays recorded for a profile and an item. -/
def playCount (s : Store ν) (key : Uuid × Uuid) : Int := (s.userItemData.find key).elim 0 (·.playCount)

/-! ## Statements -/

/-- Against an earlier state: the row that a session has now, with the other sessions and
the plays as they were. -/
structure Seen (earlier s : Store ν) (id : Uuid) (row : Row ν) : Prop where
  here : s.playSessions.find id = some row
  others : ∀ key, key ≠ id → s.playSessions.find key = earlier.playSessions.find key
  plays : ∀ key, playCount s key = playCount earlier key

theorem Seen.now (found : s.playSessions.find id = some row) : Seen s s id row := ⟨found, fun _ _ => rfl, fun _ => rfl⟩

theorem updateSession_yields (found : s.playSessions.find id = some row)
    (ran : Yields (updateSession id change) s u s') :
    s' = { s with playSessions := s.playSessions.put id (change row) } := by
  unfold updateSession at ran
  rw [yields_modify, found] at ran
  exact ran

theorem Seen.update (seen : Seen earlier s id row)
    (ran : Yields (updateSession id change) s u s') : Seen earlier s' id (change row) := by
  have shape := updateSession_yields seen.here ran
  subst shape
  exact ⟨Table.find_put_self _ _ _, fun key other => (Table.find_put_ne other).trans (seen.others key other),
    seen.plays⟩

theorem Seen.emit (seen : Seen earlier s id row)
    (ran : Yields (emitPlayEvent session user eventType position details) s u s') : Seen earlier s' id row := by
  unfold emitPlayEvent at ran
  rw [yields_modify] at ran
  subst ran
  exact ⟨seen.here, seen.others, seen.plays⟩

/-- A statement that is made under a condition only. -/
theorem Seen.optional {condition : Prop} [Decidable condition]
    (seen : Seen earlier s id row) (moved : ∀ after, Yields tx s u after → Seen earlier after id row)
    (ran : Yields (if condition then tx else pure ()) s u s') : Seen earlier s' id row := by
  split at ran
  · exact moved s' ran
  · rw [(yields_pure.mp ran).2]
    exact seen

theorem playedFile_yields (ran : Yields (playedFile item file) s found s') : s' = s := by
  unfold playedFile at ran
  simp only [yields_get_bind, yields_pure] at ran
  exact ran.2

theorem Seen.upsertHeartbeat (seen : Seen earlier s id row)
    (ran : Yields (upsertUserItemDataHeartbeat user profile item position file) s u s') : Seen earlier s' id row := by
  unfold upsertUserItemDataHeartbeat at ran
  rw [yields_modify] at ran
  subst ran
  refine ⟨seen.here, seen.others, fun key => Eq.trans ?_ (seen.plays key)⟩
  unfold playCount
  rw [Table.find_put]
  split
  · rename_i here
    rw [here]
    cases s.userItemData.find (profile, item) <;> rfl
  · rfl

theorem upsertStop_yields
    (ran : Yields (upsertUserItemDataStop user profile item watched resume file now) s count s') :
    s'.playSessions = s.playSessions ∧ isI32 count ∧
      ∀ key, playCount s' key = playCount s key + if key = (profile, item) then 1 else 0 := by
  unfold upsertUserItemDataStop at ran
  simp only [yields_get_bind, yields_ensure_bind, yields_modify_bind, yields_pure] at ran
  obtain ⟨fits, rfl, rfl⟩ := ran
  refine ⟨rfl, fits, ?_⟩
  intro key
  unfold playCount
  rw [Table.find_put]
  by_cases here : key = (profile, item)
  · subst here
    rw [if_pos rfl, if_pos rfl]
    cases s.userItemData.find (profile, item) <;> rfl
  · simp [here]

/-! ## Keys of the metadata -/

theorem find_stopMerge (state : key ≠ "current_state")
    (place : key ≠ "current_position_ms") (result : key ≠ resultKey) : (stopMerge position snapshot).find key = none := by
  unfold stopMerge
  rw [Table.find_put_ne result, Table.find_put_ne place, Table.find_put_ne state]
  rfl

/-- A merge leaves alone the keys it does not have. -/
theorem find_merge_absent {left right : Document ν} (absent : right.find key = none) :
    (left.merge right).find key = left.find key := by
  rw [Document.find_merge, absent]
  rfl

theorem find_cancelMerge (state : key ≠ "current_state") (flag : key ≠ "cancelled_before_start") :
    (cancelMerge : Document ν).find key = none := by
  unfold cancelMerge
  rw [Table.find_put_ne flag, Table.find_put_ne state]
  rfl

/-- The keys that recoveries and heartbeats write. -/
def beatKeys : List String :=
  ["stream_decision", "current_position_ms", "transcode_session_id", "stream_offset_ms", "direct_source_revision",
    "recovery_budget", "recovery", "current_state", "last_heartbeat_at"]

theorem find_replaced
    (other : key ∉ beatKeys) : (replaced env metadata transcode offset kind).find key = metadata.find key := by
  simp only [beatKeys, List.mem_cons, not_or] at other
  unfold replaced
  cases kind <;> simp only [Table.find_put] <;> simp [other]

theorem find_apply {recovery : Recovery ν} (other : key ∉ beatKeys) :
    (recovery.apply env metadata).find key = metadata.find key := by
  unfold Recovery.apply
  have apart := other
  simp only [beatKeys, List.mem_cons, not_or] at apart
  simp only [Table.find_put, apart, if_false]
  cases recovery.replacement with
  | none => rfl
  | some => exact find_replaced other

/-! ## Requests -/

theorem recover_yields (seen : Seen earlier s id row)
    (ran : Yields (recover env id user metadata outcome) s metadata' s') :
    ∃ middle, Seen earlier s' id middle ∧ row.Kept middle ∧ middle.stoppedAt = row.stoppedAt ∧
      middle.metadata = row.metadata ∧ ∀ key, key ∉ beatKeys → metadata'.find key = metadata.find key := by
  unfold recover at ran
  split at ran
  · exact (yields_throw ran).elim
  · obtain ⟨rfl, rfl⟩ := yields_pure.mp ran
    exact ⟨row, seen, .refl row, rfl, rfl, fun _ _ => rfl⟩
  · rename_i recovery
    obtain ⟨_, _, updated, rest⟩ := yields_bind.mp ran
    obtain ⟨_, _, emitted, last⟩ := yields_bind.mp rest
    obtain ⟨rfl, rfl⟩ := yields_pure.mp last
    refine ⟨_, (seen.update updated).emit emitted, ?_, ?_, ?_, fun key other => find_apply other⟩
    · split
      · exact ⟨rfl, rfl, rfl, rfl, rfl⟩
      · exact .refl row
    · split <;> rfl
    · split <;> rfl

theorem recordHeartbeat_yields {metadata : Document ν}
    (found : s.playSessions.find id = some row) (opened : row.stoppedAt = none)
    (copied : ∀ key, key ∉ beatKeys → metadata.find key = row.metadata.find key)
    (ran : Yields (recordHeartbeat env actor request around id profile row metadata) s response s') :
    ∃ row', Seen s s' id row' ∧ row.Heard row' := by
  unfold recordHeartbeat at ran
  obtain ⟨file, start, read, afterRead⟩ := yields_bind.mp ran
  have same : start = s := playedFile_yields read
  clear ran
  subst same
  obtain ⟨recovered, _, recovery, afterRecovery⟩ := yields_bind.mp afterRead
  obtain ⟨middle, seen, kept, stopped, unchanged, keys⟩ := recover_yields (.now found) recovery
  obtain ⟨_, _, changed, afterChange⟩ := yields_bind.mp afterRecovery
  have seen := seen.optional (fun _ emitted => seen.emit emitted) changed
  obtain ⟨_, _, merged, afterMerge⟩ := yields_bind.mp afterChange
  have seen := seen.update merged
  obtain ⟨_, _, upserted, afterUpsert⟩ := yields_bind.mp afterMerge
  have seen := seen.optional (fun _ written => seen.upsertHeartbeat written) upserted
  obtain ⟨_, _, beaten, ended⟩ := yields_bind.mp afterUpsert
  obtain ⟨-, rfl⟩ := yields_pure.mp ended
  refine ⟨_, seen.emit beaten, ⟨kept.userId, kept.profileId, kept.mediaItemId, kept.playbackMode, kept.startedAt⟩,
    opened, stopped.trans opened, ?_, ?_⟩
  · -- the flag is none of the keys that are merged
    have flag : "cancelled_before_start" ∉ beatKeys := by decide
    unfold cancelledBeforeStart
    rw [unchanged, Document.find_merge, Table.find_put_ne (by decide), Table.find_put_ne (by decide),
      Table.find_put_ne (by decide), keys _ flag, Table.find_put_ne (by decide), copied _ flag]
    cases row.metadata.find "cancelled_before_start" <;> rfl
  · rw [Document.find_merge, Table.find_put_self]
    rfl

theorem heartbeat_yields (ran : Yields (heartbeat env actor request around) s response s') :
    ∃ id row, request.sessionId = some id ∧ s.playSessions.find id = some row ∧ row.stoppedAt = none ∧
      (s' = s ∨ ∃ row', Seen s s' id row' ∧ row.Heard row') := by
  unfold heartbeat at ran
  obtain ⟨id, named, located⟩ := yields_demand_bind.mp ran
  obtain ⟨row, chosen, rest⟩ := yields_demand_bind.mp (yields_get_bind.mp located)
  obtain ⟨found, condition⟩ := Option.filter_eq_some_iff.mp chosen
  obtain ⟨-, opened⟩ := (Bool.and_eq_true _ _).mp condition
  have opened : row.stoppedAt = none := Option.isNone_iff_eq_none.mp opened
  obtain ⟨profile, -, checked⟩ := yields_demand_bind.mp rest
  obtain ⟨-, decided⟩ := yields_ensure_bind.mp checked
  refine ⟨id, row, named, found, opened, ?_⟩
  split at decided
  · exact .inl (yields_pure.mp decided).2
  · refine .inr (recordHeartbeat_yields found opened ?_ decided)
    intro key other
    refine Table.find_put_ne ?_
    rintro rfl
    exact other (by decide)

/-- The plays a stop of the row adds under a key. -/
def Row.plays (row : Row ν) (key : Uuid × Uuid) : Int :=
  if row.countsFor = some key.1 ∧ row.mediaItemId = key.2 then 1 else 0

/-- What the first stop of a session does. -/
structure Froze (env : Formats ν) (s s' : Store ν) (id : Uuid) (row row' : Row ν) (snapshot : StopSnapshot ν) : Prop where
  here : s'.playSessions.find id = some row'
  others : ∀ key, key ≠ id → s'.playSessions.find key = s.playSessions.find key
  plays : ∀ key, playCount s' key = playCount s key + row.plays key
  stopped : row.Stopped env row' snapshot
  fits : snapshot.Fits

theorem isI32_secondsSince (startedAt now : Time) : isI32 (secondsSince startedAt now) := by
  unfold isI32 secondsSince
  have bound : (0 : Int) ≤ i32Max := by decide
  have low : (0 : Int) ≤ min i32Max (max 0 ((now - startedAt).tdiv second)) := le_min bound (le_max_left _ _)
  have lowest : (-2 ^ 31 : Int) ≤ 0 := by decide
  exact (Bool.and_eq_true _ _).mpr ⟨decide_eq_true (lowest.trans low), decide_eq_true (min_le_left _ _)⟩

theorem freezeOpen_yields (found : s.playSessions.find id = some row) (opened : row.stoppedAt = none)
    (unflagged : cancelledBeforeStart row.metadata = false)
    (ran : Yields (freezeOpen env user id row position now) s response s') :
    ∃ row' snapshot, Froze env s s' id row row' snapshot ∧
      response = snapshot.response id row.mediaItemId row.playbackMode := by
  unfold freezeOpen at ran
  obtain ⟨file, start, read, afterRead⟩ := yields_bind.mp ran
  have same : start = s := playedFile_yields read
  clear ran
  subst same
  obtain ⟨count, first, counted, afterCount⟩ := yields_bind.mp afterRead
  have grown : first.playSessions = start.playSessions ∧ isI32 count ∧
      ∀ key, playCount first key = playCount start key + row.plays key := by
    split at counted
    · rename_i profile counts
      obtain ⟨sessions, fits, plays⟩ := upsertStop_yields counted
      refine ⟨sessions, fits, fun key => ?_⟩
      rw [plays key]
      unfold Row.plays
      rw [counts]
      simp [Prod.ext_iff, eq_comm]
    · rename_i none
      obtain ⟨rfl, rfl⟩ := yields_pure.mp counted
      exact ⟨rfl, by decide, fun key => by simp [Row.plays, none]⟩
  obtain ⟨sessions, fits, plays⟩ := grown
  obtain ⟨_, _, updated, afterUpdate⟩ := yields_bind.mp afterCount
  obtain ⟨_, _, emitted, ended⟩ := yields_bind.mp afterUpdate
  obtain ⟨rfl, rfl⟩ := yields_pure.mp ended
  have seen := ((Seen.now (sessions ▸ found)).update updated).emit emitted
  refine ⟨_, _, ⟨seen.here, fun key other => sessions ▸ seen.others key other, fun key => (seen.plays key).trans (plays key),
    ⟨⟨rfl, rfl, rfl, rfl, rfl⟩, opened, rfl, unflagged, ?_, ?_, ?_, ?_⟩, isI32_secondsSince _ _, fits⟩, rfl⟩
  · unfold cancelledBeforeStart
    rw [find_merge_absent (find_stopMerge (by decide) (by decide) (by decide))]
    exact unflagged
  · exact find_merge_absent (find_stopMerge (by decide) (by decide) (by decide))
  · rw [Document.find_merge]
    unfold stopMerge
    rw [Table.find_put_self]
    rfl
  · unfold transcodeId storedUuid
    rw [find_merge_absent (find_stopMerge (by decide) (by decide) (by decide))]

/-- A stop finds its session frozen, or freezes it. -/
theorem freeze_yields (ran : Yields (freezeOnConnection env user id expected position now) s answer s') :
    ∃ row, s.playSessions.find id = some row ∧ row.userId = user ∧ cancelledBeforeStart row.metadata = false ∧
      answer.2 = transcodeId env row.metadata ∧
      ((row.stoppedAt.isSome ∧ s' = s ∧
          answer.1 = (frozenSnapshot env row s.userItemData user).response id row.mediaItemId row.playbackMode) ∨
        ∃ row' snapshot, Froze env s s' id row row' snapshot ∧
          answer.1 = snapshot.response id row.mediaItemId row.playbackMode) := by
  unfold freezeOnConnection at ran
  obtain ⟨row, chosen, rest⟩ := yields_demand_bind.mp (yields_get_bind.mp ran)
  obtain ⟨found, condition⟩ := Option.filter_eq_some_iff.mp chosen
  obtain ⟨mine, unflagged⟩ := (Bool.and_eq_true _ _).mp condition
  have owner : row.userId = user := of_decide_eq_true ((Bool.and_eq_true _ _).mp mine).1
  have unflagged : cancelledBeforeStart row.metadata = false := by simpa using unflagged
  refine ⟨row, found, owner, unflagged, ?_⟩
  by_cases stopped : row.stoppedAt.isSome
  · rw [if_pos stopped] at rest
    obtain ⟨rfl, rfl⟩ := yields_pure.mp rest
    exact ⟨rfl, .inl ⟨stopped, rfl, rfl⟩⟩
  · rw [if_neg stopped] at rest
    obtain ⟨response, _, froze, ended⟩ := yields_bind.mp rest
    obtain ⟨rfl, rfl⟩ := yields_pure.mp ended
    have opened : row.stoppedAt = none := by simpa using stopped
    exact ⟨rfl, .inr (freezeOpen_yields found opened unflagged froze)⟩

/-- The stop of a session that is stopped already: it answers, and changes nothing. -/
theorem freeze_again {expected : Option Time} (found : s.playSessions.find id = some row) (owner : row.userId = user)
    (same : expected.all (· = row.startedAt)) (unflagged : cancelledBeforeStart row.metadata = false)
    (stopped : row.stoppedAt.isSome) :
    settle (freezeOnConnection env user id expected position now) s =
      (.ok ((frozenSnapshot env row s.userItemData user).response id row.mediaItemId row.playbackMode,
        transcodeId env row.metadata), s) := by
  have chosen : ((s.playSessions.find id).filter fun row =>
      row.userId = user && expected.all (· = row.startedAt) && !cancelledBeforeStart row.metadata) = some row := by
    rw [Option.filter_eq_some_iff]
    exact ⟨found, by simp [owner, same, unflagged]⟩
  have ran : Yields (freezeOnConnection env user id expected position now) s
      ((frozenSnapshot env row s.userItemData user).response id row.mediaItemId row.playbackMode,
        transcodeId env row.metadata) s := by
    unfold freezeOnConnection
    refine yields_get_bind.mpr (yields_demand_bind.mpr ⟨row, chosen, ?_⟩)
    rw [if_pos stopped]
    exact yields_pure.mpr ⟨rfl, rfl⟩
  unfold settle
  rw [show StateT.run _ _ = _ from ran]

theorem cancel_yields (ran : Yields (cancelBeforeStart env user id now) s answer s') :
    ∃ row row', s.playSessions.find id = some row ∧ Seen s s' id row' ∧ row.Cancelled row' ∧
      s'.userItemData = s.userItemData := by
  unfold cancelBeforeStart at ran
  obtain ⟨row, chosen, rest⟩ := yields_demand_bind.mp (yields_get_bind.mp ran)
  obtain ⟨found, condition⟩ := Option.filter_eq_some_iff.mp chosen
  obtain ⟨-, allowed⟩ := (Bool.and_eq_true _ _).mp condition
  obtain ⟨_, _, updated, ended⟩ := yields_bind.mp rest
  obtain ⟨-, rfl⟩ := yields_pure.mp ended
  have shape := updateSession_yields found updated
  refine ⟨row, _, found, (Seen.now found).update updated, ⟨⟨rfl, rfl, rfl, rfl, rfl⟩, ?_, ?_, ?_, ?_⟩, by rw [shape]⟩
  · unfold cancellable at allowed
    rcases (Bool.or_eq_true _ _).mp allowed with fresh | again
    · simp only [Bool.and_eq_true] at fresh
      exact .inl ⟨Option.isNone_iff_eq_none.mp fresh.1.1.1, Option.isNone_iff_eq_none.mp fresh.1.1.2⟩
    · exact .inr again
  · cases row.stoppedAt <;> rfl
  · unfold cancelledBeforeStart
    rw [Document.find_merge]
    rfl
  · exact find_merge_absent (find_cancelMerge (by decide) (by decide))

end Duskcue.PlaySession
