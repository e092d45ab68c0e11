import Duskcue.Document
import Duskcue.PlaybackSchema
import Mathlib.Algebra.Order.Field.Rat

/-! Play sessions: heartbeats, stops and cancellations before the start. Each is one
transaction on the row of the session, which it locks first. The result of a stop is
frozen inside the metadata of the row, next to what heartbeats write there. -/
namespace Duskcue.PlaySession
open Playback (Uuid Time second)
open Transaction

inductive PlaybackError
  | sessionNotFound | accessDenied | fileNotFound | ffmpegCrashed | ffmpegFailed | transcodeCapacityReached
  | lifecycleUnavailable | lifecycleCleanup | database

/-! ## Rows -/

inductive PlaybackMode
  | interactive | ambient
  deriving DecidableEq

inductive EventType
  | play | pause | stop | resume | bufferStart | bufferEnd | seek | error | transcodeChange | heartbeat

/-- `ν` stands for `REAL`. -/
structure Row (ν : Type) where
  userId : Uuid
  profileId : Option Uuid
  mediaItemId : Uuid
  playbackMode : PlaybackMode
  streamDecision : String
  startedAt : Time
  stoppedAt : Option Time
  durationSeconds : Int
  percentComplete : Option ν
  metadata : Document ν

structure ItemData where
  userId : Uuid
  isWatched : Bool
  playCount : Int
  lastPlayedAt : Option Time
  resumePositionMs : Int
  lastPlayedMediaFileId : Option Uuid

structure PlayEvent (ν : Type) where
  playSessionId : Uuid
  userId : Uuid
  eventType : EventType
  positionSeconds : Option Int
  details : Json ν

structure MediaFile where
  mediaItemId : Uuid
  runtimeSeconds : Option Int

structure Store (ν : Type) where
  playSessions : Table Uuid (Row ν)
  userItemData : Table (Uuid × Uuid) ItemData
  playEvents : List (PlayEvent ν)
  mediaFiles : Table Uuid MediaFile

/-- What is taken from elsewhere: the text of identifiers and of times, and the floating
point arithmetic of a percentage. -/
structure Formats (ν : Type) where
  parseUuid : String → Option Uuid
  uuidText : Uuid → String
  rfc3339 : Time → String
  /-- `(100.0 * position / (runtime * 1000.0)).min(100.0) as f32`. -/
  percent : Int → Int → ν
  /-- `percent >= 90.0`. -/
  reached : ν → Bool
  /-- An integer where a fraction is expected. -/
  ofInteger : Int → ν

abbrev Tx (ν : Type) := Transaction (Store ν) PlaybackError

/-- The largest `i32`, which is also the largest `INT` of the database. -/
def i32Max : Int := 2 ^ 31 - 1

/-- A value that an `i32`, or an `INT`, can hold. -/
def isI32 (value : Int) : Bool := -2 ^ 31 ≤ value && value ≤ i32Max

/-- `as i32`. -/
def wrapI32 (value : Int) : Int := value.bmod (2 ^ 32)

variable {ν : Type}

/-! ## History -/

/-- `played_file`. -/
def playedFile (mediaItemId : Uuid) (fileId : Option Uuid) : Tx ν (Option (Uuid × Option Int)) := do
  let s ← get
  pure do
    let id ← fileId
    let file ← s.mediaFiles.find id
    if file.mediaItemId = mediaItemId then some (id, file.runtimeSeconds) else none

/-- `emit_play_event`. -/
def emitPlayEvent (sessionId userId : Uuid) (eventType : EventType) (positionSeconds : Option Int)
    (details : Json ν) : Tx ν Unit := modify fun s =>
  { s with playEvents := s.playEvents ++ [⟨sessionId, userId, eventType, positionSeconds, details⟩] }

/-- `UPDATE play_sessions ... WHERE id = $1`. -/
def updateSession (sessionId : Uuid) (change : Row ν → Row ν) : Tx ν Unit := modify fun s =>
  { s with
    playSessions := ((s.playSessions.find sessionId).map change).elim s.playSessions (s.playSessions.put sessionId) }

/-- `merge_session_metadata`. -/
def mergeSessionMetadata (sessionId : Uuid) (merge : Document ν) : Tx ν Unit :=
  updateSession sessionId fun row => { row with metadata := row.metadata.merge merge }

/-- `upsert_user_item_data_heartbeat`. -/
def upsertUserItemDataHeartbeat (userId profileId mediaItemId : Uuid) (positionMs : Int)
    (mediaFileId : Option Uuid) : Tx ν Unit := modify fun s =>
  let row := match s.userItemData.find (profileId, mediaItemId) with
    | none => ⟨userId, false, 0, none, positionMs, mediaFileId⟩
    | some row =>
      { row with
        resumePositionMs := positionMs
        lastPlayedMediaFileId := mediaFileId <|> row.lastPlayedMediaFileId }
  { s with userItemData := s.userItemData.put (profileId, mediaItemId) row }

/-- The row after a stop: a new one, or the one that is there with one more play. -/
def playedOnce (userId : Uuid) (isWatched : Bool) (resumePositionMs : Int) (mediaFileId : Option Uuid) (now : Time) :
    Option ItemData → ItemData
  | none => ⟨userId, isWatched, 1, some now, resumePositionMs, mediaFileId⟩
  | some row =>
    { row with
      playCount := row.playCount + 1
      lastPlayedAt := some now
      isWatched := row.isWatched || isWatched
      resumePositionMs
      lastPlayedMediaFileId := mediaFileId <|> row.lastPlayedMediaFileId }

/-- `upsert_user_item_data_stop`. A count that does not fit its column is an error. -/
def upsertUserItemDataStop (userId profileId mediaItemId : Uuid) (isWatched : Bool) (resumePositionMs : Int)
    (mediaFileId : Option Uuid) (now : Time) : Tx ν Int := do
  let s ← get
  let row := playedOnce userId isWatched resumePositionMs mediaFileId now (s.userItemData.find (profileId, mediaItemId))
  ensure (isI32 row.playCount) .database
  modify fun s => { s with userItemData := s.userItemData.put (profileId, mediaItemId) row }
  pure row.playCount

/-! ## Metadata -/

def resultKey : String := "duskcue_stop_result_v1"

section
variable (env : Formats ν)

/-- An identifier in the metadata. -/
def storedUuid (metadata : Document ν) (key : String) : Option Uuid := do
  let value ← metadata.find key
  let text ← value.asStr
  env.parseUuid text

def transcodeId (metadata : Document ν) : Option Uuid := storedUuid env metadata "transcode_session_id"

/-- `metadata -> 'cancelled_before_start' = 'true'::jsonb`. -/
def cancelledBeforeStart (metadata : Document ν) : Bool := (metadata.find "cancelled_before_start").any Json.isTrue

/-- `direct::has_context`. -/
def hasContext (metadata : Document ν) : Bool := (metadata.find "direct_source_context").isSome

/-- `direct::revision`. -/
def directRevision (metadata : Document ν) : Option Uuid :=
  if (transcodeId env metadata).isSome then none else storedUuid env metadata "direct_source_revision"

/-- `direct::current_revision`. -/
def currentRevision (metadata : Document ν) (requested : Option Uuid) : Bool :=
  (directRevision env metadata).any fun revision => requested = some revision

/-! ## Stopping -/

structure StopSnapshot (ν : Type) where
  durationSeconds : Int
  percentComplete : Option ν
  isWatched : Bool
  playCount : Int

structure StopPlaybackResponse (ν : Type) where
  sessionId : Uuid
  mediaItemId : Uuid
  playbackMode : PlaybackMode
  durationSeconds : Int
  percentComplete : Option ν
  isWatched : Bool
  playCount : Int

def StopSnapshot.response (snapshot : StopSnapshot ν) (sessionId mediaItemId : Uuid) (playbackMode : PlaybackMode) :
    StopPlaybackResponse ν :=
  { sessionId, mediaItemId, playbackMode, durationSeconds := snapshot.durationSeconds,
    percentComplete := snapshot.percentComplete, isWatched := snapshot.isWatched, playCount := snapshot.playCount }

/-- `Serialize`. -/
def StopSnapshot.toValue (snapshot : StopSnapshot ν) : Json ν :=
  .object
    [("duration_seconds", .integer snapshot.durationSeconds),
     ("percent_complete", snapshot.percentComplete.elim .null .fraction),
     ("is_watched", .bool snapshot.isWatched),
     ("play_count", .integer snapshot.playCount)]

/-- An optional fraction: absent, `null`, or a number. -/
def optionalFraction : Option (Json ν) → Option (Option ν)
  | none => some none
  | some .null => some none
  | some (.fraction value) => some (some value)
  | some (.integer value) => some (some (env.ofInteger value))
  | some _ => none

/-- `Deserialize`. -/
def StopSnapshot.fromValue (value : Json ν) : Option (StopSnapshot ν) := do
  let durationSeconds ← (← value.get "duration_seconds").asI32
  let percentComplete ← optionalFraction env (value.get "percent_complete")
  let isWatched ← (← value.get "is_watched").asBool
  let playCount ← (← value.get "play_count").asI32
  pure { durationSeconds, percentComplete, isWatched, playCount }

/-- The plays that count: interactive ones, for a profile. -/
def Row.countsFor (row : Row ν) : Option Uuid :=
  if row.playbackMode = .interactive then row.profileId else none

/-- The snapshot of a session stopped already: the frozen one, else what the row tells. -/
def frozenSnapshot (row : Row ν) (userItemData : Table (Uuid × Uuid) ItemData) (userId : Uuid) : StopSnapshot ν :=
  match (row.metadata.find resultKey).bind (StopSnapshot.fromValue env) with
  | some snapshot => snapshot
  | none =>
    { durationSeconds := row.durationSeconds
      percentComplete := row.percentComplete
      isWatched := row.countsFor.isSome && row.percentComplete.any env.reached
      playCount := (row.countsFor.bind fun profileId => (userItemData.find (profileId, row.mediaItemId)).filter
        (·.userId = userId)).elim 0 (·.playCount) }

/-- `duration_seconds`: whole seconds since the start, none of them negative. -/
def secondsSince (startedAt now : Time) : Int := min i32Max (max 0 ((now - startedAt).tdiv second))

/-- The position a stop without one takes. -/
def storedPosition (metadata : Document ν) : Int :=
  ((metadata.find "current_position_ms").bind Json.asI64).elim 0 fun value =>
    if isI32 value then value else 0

/-- The keys a stop writes. -/
def stopMerge (finalPosition : Int) (snapshot : StopSnapshot ν) : Document ν :=
  ((Table.empty.put "current_state" (.text "stopped")).put "current_position_ms" (.integer finalPosition)).put
    resultKey snapshot.toValue

/-- The first stop of a session. -/
def freezeOpen (userId sessionId : Uuid) (row : Row ν) (finalPositionMs : Option Int) (now : Time) :
    Tx ν (StopPlaybackResponse ν) := do
  let finalPosition := finalPositionMs.getD (storedPosition row.metadata)
  let file ← playedFile row.mediaItemId (storedUuid env row.metadata "media_file_id")
  let runtimeSeconds := file.bind (·.2)
  let percentComplete := (runtimeSeconds.filter (0 < ·)).map (env.percent finalPosition)
  let isWatched := percentComplete.any env.reached
  let durationSeconds := secondsSince row.startedAt now
  let playCount ← (match row.countsFor with
    | some profileId =>
      upsertUserItemDataStop userId profileId row.mediaItemId isWatched (if isWatched then 0 else finalPosition)
        (file.map (·.1)) now
    | none => pure 0)
  let snapshot : StopSnapshot ν :=
    { durationSeconds, percentComplete, isWatched := row.countsFor.isSome && isWatched, playCount }
  updateSession sessionId fun row =>
    { row with
      stoppedAt := some now
      durationSeconds
      percentComplete
      metadata := row.metadata.merge (stopMerge finalPosition snapshot) }
  emitPlayEvent sessionId userId .stop (some (finalPosition.tdiv 1000))
    (.object [("duration_seconds", .integer durationSeconds),
      ("percent_complete", percentComplete.elim .null .fraction)])
  pure (snapshot.response sessionId row.mediaItemId row.playbackMode)

/-- `freeze_on_connection`. -/
def freezeOnConnection (userId sessionId : Uuid) (expectedStartedAt : Option Time) (finalPositionMs : Option Int)
    (now : Time) : Tx ν (StopPlaybackResponse ν × Option Uuid) := do
  let s ← get
  let row ← demand ((s.playSessions.find sessionId).filter fun row =>
    row.userId = userId && expectedStartedAt.all (· = row.startedAt) && !cancelledBeforeStart row.metadata)
    .sessionNotFound
  if row.stoppedAt.isSome then
    let snapshot := frozenSnapshot env row s.userItemData userId
    pure (snapshot.response sessionId row.mediaItemId row.playbackMode, transcodeId env row.metadata)
  else
    let response ← freezeOpen env userId sessionId row finalPositionMs now
    pure (response, transcodeId env row.metadata)

/-- The keys a cancellation writes. -/
def cancelMerge : Document ν :=
  (Table.empty.put "current_state" (.text "stopped")).put "cancelled_before_start" (.bool true)

/-- The events of a playback that has begun. -/
def EventType.begun : EventType → Bool
  | .heartbeat | .seek | .pause | .resume | .bufferStart | .bufferEnd => true
  | _ => false

/-- The `WHERE` of the cancellation. -/
def cancellable (s : Store ν) (sessionId : Uuid) (row : Row ν) : Bool :=
  row.stoppedAt.isNone && (row.metadata.find "last_heartbeat_at").isNone &&
    ((row.metadata.find "current_position_ms").all fun value => value.isNull || value.readsZero) &&
    !(s.playEvents.any fun event => event.playSessionId = sessionId && event.eventType.begun) ||
  cancelledBeforeStart row.metadata

/-- The statement of `cancel_before_start`. -/
def cancelBeforeStart (userId sessionId : Uuid) (now : Time) : Tx ν (StopPlaybackResponse ν × Option Uuid) := do
  let s ← get
  let row ← demand ((s.playSessions.find sessionId).filter fun row =>
    row.userId = userId && cancellable s sessionId row) .sessionNotFound
  let metadata := row.metadata.merge cancelMerge
  updateSession sessionId fun row =>
    { row with
      stoppedAt := row.stoppedAt <|> some now
      durationSeconds := 0
      percentComplete := none
      metadata }
  pure ({ sessionId, mediaItemId := row.mediaItemId, playbackMode := row.playbackMode, durationSeconds := 0,
          percentComplete := none, isWatched := false, playCount := 0 }, transcodeId env metadata)

/-! ## Heartbeats -/

structure PlaybackActor where
  userId : Uuid
  profileId : Uuid

structure HeartbeatRequest where
  sessionId : Option Uuid
  positionMs : Option Int
  state : Option String
  isPaused : Option Bool
  isBuffering : Option Bool
  transcodeSessionId : Option Uuid
  recoveryRequested : Bool
  directSourceRevision : Option Uuid
  /-- The generation that a copy fallback acknowledges. -/
  copyFallback : Option Uuid

structure HeartbeatResponse where
  streamDecision : String
  directSourceRevision : Option Uuid
  sessionId : Uuid
  positionMs : Int
  playbackMode : PlaybackMode
  transcodeSessionId : Option Uuid
  streamUrl : Option String

/-- `recovery::response`, as far as the metadata tell it. -/
def heartbeatResponse (sessionId : Uuid) (playbackMode : PlaybackMode) (metadata : Document ν) : HeartbeatResponse :=
  let id := transcodeId env metadata
  { sessionId
    playbackMode
    streamDecision := ((metadata.find "stream_decision").bind Json.asStr).getD
      (if id.isSome then "transcode" else "direct_play")
    directSourceRevision := directRevision env metadata
    positionMs := max 0 (min i32Max (((metadata.find "current_position_ms").bind Json.asI64).getD 0))
    transcodeSessionId := id
    streamUrl := id.map (fun id => "/api/v1/transcode/" ++ env.uuidText id ++ "/manifest.m3u8") <|>
      (storedUuid env metadata "media_file_id").map fun id => "/api/v1/stream/" ++ env.uuidText id }

/-- How a replacement came about: a restarted encoder, the fallback of a direct source, or
that of a copied one. -/
inductive Replacement
  | restarted (positionMs : Int)
  | direct
  | copied
  deriving DecidableEq

/-- What a recovery leaves behind; which one it is depends on the encoders. -/
structure Recovery (ν : Type) where
  replacement : Option (Uuid × Int × Replacement)
  budget : Json ν
  status : Json ν
  details : Json ν

/-- The keys a replacement writes. -/
def replaced (metadata : Document ν) (id : Uuid) (streamOffsetMs : Int) (kind : Replacement) : Document ν :=
  let moved := (metadata.put "transcode_session_id" (.text (env.uuidText id))).put "stream_offset_ms"
    (.integer streamOffsetMs)
  match kind with
  | .restarted positionMs => moved.put "current_position_ms" (.integer positionMs)
  | .direct => (moved.put "direct_source_revision" .null).put "stream_decision" (.text "transcode")
  | .copied => moved.put "stream_decision" (.text "transcode")

/-- The metadata a recovery leaves. -/
def Recovery.apply (metadata : Document ν) (recovery : Recovery ν) : Document ν :=
  let moved := recovery.replacement.elim metadata fun (id, offset, kind) => replaced env metadata id offset kind
  (moved.put "recovery_budget" recovery.budget).put "recovery" recovery.status

/-- The fallbacks change the decision in the row as well. -/
def Recovery.transcodes (recovery : Recovery ν) : Bool :=
  recovery.replacement.any fun (_, _, kind) => kind = .direct || kind = .copied

/-- `recovery::recover`, with what it came to given. -/
def recover (sessionId userId : Uuid) (metadata : Document ν) (outcome : Except PlaybackError (Option (Recovery ν))) :
    Tx ν (Document ν) :=
  match outcome with
  | .error error => throw error
  | .ok none => pure metadata
  | .ok (some recovery) => do
    updateSession sessionId fun row =>
      if recovery.transcodes then { row with streamDecision := "transcode" } else row
    emitPlayEvent sessionId userId .transcodeChange none recovery.details
    pure (recovery.apply env metadata)

/-- The request is about an output that is no longer the current one. -/
def outdated (metadata : Document ν) (request : HeartbeatRequest) : Bool :=
  let active := transcodeId env metadata
  (active.isNone && hasContext metadata && !currentRevision env metadata request.directSourceRevision) ||
  ((active.isSome || request.transcodeSessionId.isSome) && request.transcodeSessionId ≠ active) ||
  (request.recoveryRequested && request.copyFallback.any fun generation => some generation ≠ active)

def validPlaybackStates : List String := ["playing", "paused", "buffering", "stopped"]

def effectiveState (request : HeartbeatRequest) : String :=
  if request.recoveryRequested && request.isPaused = some true then "paused"
  else if request.isBuffering.getD false then "buffering"
  else match request.state.filter (validPlaybackStates.contains ·) with
    | some state => state
    | none => if request.isPaused.getD false then "paused" else "playing"

/-- The event of a change of state. -/
def transition (before after : String) : EventType × List (String × String) :=
  match before, after with
  | "playing", "paused" => (.pause, [("reason", "user_paused")])
  | "paused", "playing" => (.resume, [])
  | "playing", "buffering" => (.bufferStart, [])
  | "buffering", "playing" => (.bufferEnd, [])
  | "paused", "buffering" => (.bufferStart, [("from", "paused")])
  | "buffering", "paused" => (.pause, [("from", "buffering")])
  | _, _ => (.heartbeat, [])

/-- `Utc::now()` and what the recovery came to. -/
structure Surroundings (ν : Type) where
  now : Time
  recovery : Except PlaybackError (Option (Recovery ν))

/-- What a heartbeat of the current output writes. -/
def recordHeartbeat (actor : PlaybackActor) (request : HeartbeatRequest) (around : Surroundings ν)
    (sessionId profileId : Uuid) (row : Row ν) (metadata : Document ν) : Tx ν HeartbeatResponse := do
  let prevState := ((metadata.find "current_state").bind Json.asStr).getD "playing"
  let file ← playedFile row.mediaItemId (storedUuid env metadata "media_file_id")
  let state := effectiveState request
  let requested := request.positionMs.getD
    (((metadata.find "current_position_ms").bind Json.asI64).elim 0 wrapI32)
  let metadata := metadata.put "current_position_ms" (.integer requested)
  let metadata ← recover env sessionId actor.userId metadata around.recovery
  let position := max 0 (min i32Max (((metadata.find "current_position_ms").bind Json.asI64).getD requested))
  let change := transition prevState state
  (if state ≠ prevState then
    emitPlayEvent sessionId actor.userId change.1 (some (position.tdiv 1000))
      (.object (change.2.map fun (key, value) => (key, .text value)))
  else pure ())
  let metadata := ((metadata.put "current_state" (.text state)).put "current_position_ms" (.integer position)).put
    "last_heartbeat_at" (.text (env.rfc3339 around.now))
  mergeSessionMetadata sessionId metadata
  (if request.positionMs.isSome && row.playbackMode = .interactive then
    upsertUserItemDataHeartbeat actor.userId profileId row.mediaItemId position (file.map (·.1))
  else pure ())
  emitPlayEvent sessionId actor.userId .heartbeat (some (position.tdiv 1000)) (.object [("state", .text state)])
  pure (heartbeatResponse env sessionId row.playbackMode metadata)

def heartbeat (actor : PlaybackActor) (request : HeartbeatRequest) (around : Surroundings ν) :
    Tx ν HeartbeatResponse := do
  let sessionId ← demand request.sessionId .sessionNotFound
  let s ← get
  let row ← demand ((s.playSessions.find sessionId).filter fun row =>
    row.userId = actor.userId && row.stoppedAt.isNone) .sessionNotFound
  let profileId ← demand row.profileId .sessionNotFound
  let metadata := row.metadata.put "stream_decision" (.text row.streamDecision)
  ensure (!((transcodeId env metadata).isSome || hasContext metadata) || profileId = actor.profileId) .sessionNotFound
  if outdated env metadata request then
    pure (heartbeatResponse env sessionId row.playbackMode metadata)
  else
    recordHeartbeat env actor request around sessionId profileId row metadata

/-! ## Requests -/

/-- A request, with what the encoders answer it. `freeze` is the stop that the end of a
command makes in its own transaction. -/
inductive Move (ν : Type)
  | heartbeat (actor : PlaybackActor) (request : HeartbeatRequest) (around : Surroundings ν)
  | stop (userId sessionId : Uuid) (finalPositionMs : Option Int) (now : Time) (teardown : Except PlaybackError Unit)
  | cancel (userId sessionId : Uuid) (now : Time) (teardown : Except PlaybackError Unit)
  | freeze (userId sessionId : Uuid) (startedAt now : Time)

/-- `manager.stop_session`, of the encoder that the metadata name. -/
def stopSession (teardown : Except PlaybackError Unit) (frozen : StopPlaybackResponse ν × Option Uuid) :
    Except PlaybackError (StopPlaybackResponse ν) := do
  if frozen.2.isSome then teardown
  pure frozen.1

/-- The answer to a request that is not a heartbeat, and the state it leaves. -/
def stopping (s : Store ν) : Move ν → Except PlaybackError (StopPlaybackResponse ν) × Store ν
  | .stop userId sessionId finalPositionMs now teardown =>
    let (frozen, after) := settle (freezeOnConnection env userId sessionId none finalPositionMs now) s
    (frozen.bind (stopSession teardown), after)
  | .cancel userId sessionId now teardown =>
    let (cancelled, after) := settle (cancelBeforeStart env userId sessionId now) s
    (cancelled.bind (stopSession teardown), after)
  | .freeze userId sessionId startedAt now =>
    let (frozen, after) := settle (freezeOnConnection env userId sessionId (some startedAt) none now) s
    (frozen.map Prod.fst, after)
  | .heartbeat .. => (.error .sessionNotFound, s)

/-- The answer to a heartbeat, and the state it leaves. -/
def beating (s : Store ν) (actor : PlaybackActor) (request : HeartbeatRequest) (around : Surroundings ν) :
    Except PlaybackError HeartbeatResponse × Store ν :=
  settle (heartbeat env actor request around) s

def next (s : Store ν) (move : Move ν) : Store ν :=
  match move with
  | .heartbeat actor request around => (beating env s actor request around).2
  | move => (stopping env s move).2

def run (s : Store ν) (moves : List (Move ν)) : Store ν := moves.foldl (next env) s

end

/-! ## Starting -/

/-- The columns and keys of a new session. -/
structure Start (ν : Type) where
  userId : Uuid
  profileId : Uuid
  mediaItemId : Uuid
  playbackMode : PlaybackMode
  streamDecision : String
  transcodeSessionId : Option Uuid
  mediaFileId : Option Uuid
  qualityMode : Option String
  maxStreamingBitrate : Option Int
  directContext : Option (Json ν × Uuid)
  sourceRoute : Option (Json ν)

/-- The row that `create_play_session` writes. -/
def createPlaySession (env : Formats ν) (start : Start ν) (now : Time) : Row ν :=
  let metadata : Document ν :=
    ((((((Table.empty.put "transcode_session_id" (start.transcodeSessionId.elim .null fun id => .text (env.uuidText id))).put
      "media_file_id" (start.mediaFileId.elim .null fun id => .text (env.uuidText id))).put
      "current_state" (.text "playing")).put "current_position_ms" (.integer 0)).put
      "quality_mode" (start.qualityMode.elim .null .text)).put
      "max_streaming_bitrate" (start.maxStreamingBitrate.elim .null .integer)).put
      "stream_decision" (.text start.streamDecision)
  let metadata := start.directContext.elim metadata fun (context, revision) =>
    (metadata.put "direct_source_revision" (.text (env.uuidText revision))).put "direct_source_context" context
  let metadata := start.sourceRoute.elim metadata (metadata.put "source_route_context")
  { userId := start.userId, profileId := some start.profileId, mediaItemId := start.mediaItemId,
    playbackMode := start.playbackMode, streamDecision := start.streamDecision, startedAt := now, stoppedAt := none,
    durationSeconds := 0, percentComplete := none, metadata }

end Duskcue.PlaySession
