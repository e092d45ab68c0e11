import Duskcue.PlaySessionSteps

/-! One play session under every order of heartbeats, stops and cancellations. What a
request does to the row of its session is one of three turns: heard, stopped or
cancelled. A row leaves the open state once, and the turns that are left to it then
change nothing that counts. -/
namespace Duskcue.PlaySession
open Playback (Uuid Time second)
open Transaction

variable {ν : Type} {env : Formats ν} {s s' : Store ν} {id : Uuid} {row row' : Row ν}

/-! ## Runs -/

/-- The session a request is about. -/
def Move.sessionId : Move ν → Option Uuid
  | .heartbeat _ request _ => request.sessionId
  | .stop _ sessionId _ _ _ => some sessionId
  | .cancel _ sessionId _ _ => some sessionId
  | .freeze _ sessionId _ _ => some sessionId

/-- What a request that takes effect does to the row of its session. -/
inductive Turn (env : Formats ν) (s s' : Store ν) (id : Uuid) (row : Row ν) : Prop
  | heard {row' : Row ν} (seen : Seen s s' id row') (heard : row.Heard row')
  | froze {row' : Row ν} {snapshot : StopSnapshot ν} (froze : Froze env s s' id row row' snapshot)
  | cancelled {row' : Row ν} (seen : Seen s s' id row') (cancelled : row.Cancelled row')
      (data : s'.userItemData = s.userItemData)

theorem next_cases (env : Formats ν) (s : Store ν) (move : Move ν) :
    next env s move = s ∨ ∃ id row, move.sessionId = some id ∧ s.playSessions.find id = some row ∧
      Turn env s (next env s move) id row := by
  have stops (user id : Uuid) (expected : Option Time) (position : Option Int) (now : Time) :
      (settle (freezeOnConnection env user id expected position now) s).2 = s ∨ ∃ row,
        s.playSessions.find id = some row ∧
        Turn env s (settle (freezeOnConnection env user id expected position now) s).2 id row := by
    rcases settle_cases (freezeOnConnection env user id expected position now) s with
      ⟨answer, after, ran, shape⟩ | ⟨error, -, shape⟩
    · rw [shape]
      obtain ⟨row, found, -, -, -, ⟨-, same, -⟩ | ⟨row', snapshot, froze, -⟩⟩ := freeze_yields ran
      · exact .inl same
      · exact .inr ⟨row, found, .froze froze⟩
    · exact .inl (by rw [shape])
  cases move with
  | heartbeat actor request around =>
    rcases settle_cases (heartbeat env actor request around) s with ⟨answer, after, ran, shape⟩ | ⟨error, -, shape⟩
    · have here : next env s (.heartbeat actor request around) = after := congrArg Prod.snd shape
      rw [here]
      obtain ⟨id, row, named, found, -, same | ⟨row', seen, heard⟩⟩ := heartbeat_yields ran
      · exact .inl same
      · exact .inr ⟨id, row, named, found, .heard seen heard⟩
    · exact .inl (congrArg Prod.snd shape)
  | stop user id position now =>
    rcases stops user id none position now with same | ⟨row, found, turn⟩
    · exact .inl same
    · exact .inr ⟨id, row, rfl, found, turn⟩
  | cancel user id now teardown =>
    rcases settle_cases (cancelBeforeStart env user id now) s with ⟨answer, after, ran, shape⟩ | ⟨error, -, shape⟩
    · have here : next env s (.cancel user id now teardown) = after := congrArg Prod.snd shape
      rw [here]
      obtain ⟨row, row', found, seen, cancelled, data⟩ := cancel_yields ran
      exact .inr ⟨id, row, rfl, found, .cancelled seen cancelled data⟩
    · exact .inl (congrArg Prod.snd shape)
  | freeze user id started now =>
    rcases stops user id (some started) none now with same | ⟨row, found, turn⟩
    · exact .inl same
    · exact .inr ⟨id, row, rfl, found, turn⟩

/-- A row that has come from `first` by requests. -/
structure Row.Sound (first row : Row ν) : Prop where
  kept : first.Kept row
  result : row.stoppedAt.isSome → cancelledBeforeStart row.metadata = false →
    ∃ snapshot : StopSnapshot ν, snapshot.Fits ∧ row.metadata.find resultKey = some snapshot.toValue
  flagged : cancelledBeforeStart row.metadata = true →
    row.stoppedAt.isSome ∧ row.metadata.find "last_heartbeat_at" = none

/-- A session nothing has been asked of yet. -/
structure Row.Started (row : Row ν) : Prop where
  stoppedAt : row.stoppedAt = none
  flag : cancelledBeforeStart row.metadata = false
  beat : row.metadata.find "last_heartbeat_at" = none

theorem createPlaySession_started (env : Formats ν) (start : Start ν) (now : Time) :
    (createPlaySession env start now).Started := by
  have keys (key : String) (other : key ∉ ["transcode_session_id", "media_file_id", "current_state",
      "current_position_ms", "quality_mode", "max_streaming_bitrate", "stream_decision", "direct_source_revision",
      "direct_source_context", "source_route_context"]) :
      (createPlaySession env start now).metadata.find key = none := by
    simp only [List.mem_cons, not_or] at other
    unfold createPlaySession
    cases start.directContext <;> cases start.sourceRoute <;> simp [Table.find_put, other]
  refine ⟨rfl, ?_, keys _ (by decide)⟩
  unfold cancelledBeforeStart
  rw [keys _ (by decide)]
  rfl

theorem Row.Started.sound (started : row.Started) : row.Sound row where
  kept := .refl row
  result := by
    intro stopped
    rw [started.stoppedAt] at stopped
    cases stopped
  flagged := by
    intro flagged
    rw [started.flag] at flagged
    cases flagged

/-- The session has a row that came from `first`. -/
def Sound (first : Row ν) (s : Store ν) (id : Uuid) : Prop := ∃ row, s.playSessions.find id = some row ∧ first.Sound row

theorem Turn.sound {first : Row ν} (turn : Turn env s s' id row) (sound : first.Sound row) : Sound first s' id := by
  cases turn with
  | heard seen heard =>
    refine ⟨_, seen.here, sound.kept.trans heard.kept, ?_, ?_⟩
    · intro stopped
      rw [heard.after] at stopped
      cases stopped
    · intro flagged
      rw [heard.flag] at flagged
      have stopped := (sound.flagged flagged).1
      rw [heard.before] at stopped
      cases stopped
  | froze froze =>
    refine ⟨_, froze.here, sound.kept.trans froze.stopped.kept, ?_, ?_⟩
    · intro _ _
      exact ⟨_, froze.fits, froze.stopped.result⟩
    · intro flagged
      rw [froze.stopped.flag] at flagged
      cases flagged
  | cancelled seen cancelled =>
    refine ⟨_, seen.here, sound.kept.trans cancelled.kept, ?_, ?_⟩
    · intro _ unflagged
      rw [cancelled.flag] at unflagged
      cases unflagged
    · intro _
      refine ⟨cancelled.after, cancelled.beat.trans ?_⟩
      rcases cancelled.before with ⟨-, silent⟩ | flagged
      · exact silent
      · exact (sound.flagged flagged).2

theorem Turn.others (turn : Turn env s s' id row) (other : key ≠ id) :
    s'.playSessions.find key = s.playSessions.find key := by
  cases turn with
  | heard seen | cancelled seen => exact seen.others key other
  | froze froze => exact froze.others key other

theorem next_sound (env : Formats ν) (sound : Sound first s id) (move : Move ν) : Sound first (next env s move) id := by
  obtain ⟨row, found, holds⟩ := sound
  rcases next_cases env s move with same | ⟨key, turned, -, there, turn⟩
  · rw [same]
    exact ⟨row, found, holds⟩
  · by_cases here : key = id
    · subst here
      cases found.symm.trans there
      exact turn.sound holds
    · exact ⟨row, (turn.others (Ne.symm here)).trans found, holds⟩

theorem run_sound (env : Formats ν) (sound : Sound first s id) (moves : List (Move ν)) : Sound first (run env s moves) id := by
  induction moves generalizing s with
  | nil => exact sound
  | cons move _ ih => exact ih (next_sound env sound move)

/-- The session is stopped, and not by a cancellation. -/
def stoppedNormally (s : Store ν) (id : Uuid) : Bool :=
  (s.playSessions.find id).any fun row => row.stoppedAt.isSome && !cancelledBeforeStart row.metadata

/-- The session is cancelled. -/
def isCancelled (s : Store ν) (id : Uuid) : Bool :=
  (s.playSessions.find id).any fun row => cancelledBeforeStart row.metadata

/-- The session has been stopped or cancelled. -/
def isSettled (s : Store ν) (id : Uuid) : Bool := (s.playSessions.find id).any fun row => row.stoppedAt.isSome

/-- The session has recorded a heartbeat. -/
def isHeard (s : Store ν) (id : Uuid) : Bool :=
  (s.playSessions.find id).any fun row => (row.metadata.find "last_heartbeat_at").isSome

theorem stoppedNormally_iff (found : s.playSessions.find id = some row) :
    stoppedNormally s id = true ↔ row.stoppedAt.isSome ∧ cancelledBeforeStart row.metadata = false := by
  unfold stoppedNormally
  rw [found]
  simp

/-- No request changes the row of a session that is stopped normally. -/
theorem Turn.not_stopped (turn : Turn env s s' id row) (stopped : row.stoppedAt.isSome)
    (unflagged : cancelledBeforeStart row.metadata = false) : False := by
  have closed : row.stoppedAt ≠ none := Option.isSome_iff_ne_none.mp stopped
  cases turn with
  | heard _ heard => exact closed heard.before
  | froze froze => exact closed froze.stopped.before
  | cancelled _ cancelled =>
    rcases cancelled.before with ⟨opened, -⟩ | flagged
    · exact closed opened
    · rw [unflagged] at flagged
      cases flagged

theorem next_stopped (found : s.playSessions.find id = some row) (stopped : row.stoppedAt.isSome)
    (unflagged : cancelledBeforeStart row.metadata = false) (move : Move ν) :
    (next env s move).playSessions.find id = some row := by
  rcases next_cases env s move with same | ⟨key, turned, -, there, turn⟩
  · rw [same]
    exact found
  · by_cases here : key = id
    · subst here
      cases found.symm.trans there
      exact (turn.not_stopped stopped unflagged).elim
    · exact (turn.others (Ne.symm here)).trans found

theorem run_stopped (env : Formats ν) (found : s.playSessions.find id = some row) (stopped : row.stoppedAt.isSome)
    (unflagged : cancelledBeforeStart row.metadata = false) (moves : List (Move ν)) :
    (run env s moves).playSessions.find id = some row := by
  induction moves generalizing s with
  | nil => exact found
  | cons move _ ih => exact ih (next_stopped found stopped unflagged move)

theorem run_keeps {first : Row ν} (condition : Row ν → Prop)
    (kept : ∀ s s' row, first.Sound row → condition row → Turn env s s' id row →
      ∃ row', s'.playSessions.find id = some row' ∧ condition row')
    (sound : Sound first s id) (found : s.playSessions.find id = some row) (holds : condition row)
    (moves : List (Move ν)) : ∃ row', (run env s moves).playSessions.find id = some row' ∧ condition row' := by
  induction moves generalizing s row with
  | nil => exact ⟨row, found, holds⟩
  | cons move moves ih =>
    have step : ∃ row', (next env s move).playSessions.find id = some row' ∧ condition row' := by
      obtain ⟨held, there, valid⟩ := sound
      cases found.symm.trans there
      rcases next_cases env s move with same | ⟨key, turned, -, here, turn⟩
      · rw [same]
        exact ⟨row, found, holds⟩
      · by_cases mine : key = id
        · subst mine
          cases found.symm.trans here
          exact kept s _ row valid holds turn
        · exact ⟨row, (turn.others (Ne.symm mine)).trans found, holds⟩
    obtain ⟨row', found', holds'⟩ := step
    exact ih (next_sound env sound move) found' holds'

theorem run_settled (env : Formats ν) (sound : Sound first s id) (found : s.playSessions.find id = some row)
    (settled : row.stoppedAt.isSome) (moves : List (Move ν)) :
    ∃ row', (run env s moves).playSessions.find id = some row' ∧ row'.stoppedAt.isSome := by
  refine run_keeps (fun row => row.stoppedAt.isSome) ?_ sound found settled moves
  intro s s' row _ settled turn
  have closed : row.stoppedAt ≠ none := Option.isSome_iff_ne_none.mp settled
  cases turn with
  | heard _ heard => exact (closed heard.before).elim
  | froze froze => exact (closed froze.stopped.before).elim
  | cancelled seen cancelled => exact ⟨_, seen.here, cancelled.after⟩

theorem run_cancelled (env : Formats ν) (sound : Sound first s id) (found : s.playSessions.find id = some row)
    (flagged : cancelledBeforeStart row.metadata = true) (moves : List (Move ν)) :
    ∃ row', (run env s moves).playSessions.find id = some row' ∧ cancelledBeforeStart row'.metadata = true := by
  refine run_keeps (fun row => cancelledBeforeStart row.metadata = true) ?_ sound found flagged moves
  intro s s' row _ flagged turn
  cases turn with
  | heard seen heard => exact ⟨_, seen.here, heard.flag.trans flagged⟩
  | froze froze =>
    rw [froze.stopped.unflagged] at flagged
    cases flagged
  | cancelled seen cancelled => exact ⟨_, seen.here, cancelled.flag⟩

theorem run_heard (env : Formats ν) (sound : Sound first s id) (found : s.playSessions.find id = some row)
    (heard : (row.metadata.find "last_heartbeat_at").isSome) (moves : List (Move ν)) :
    ∃ row', (run env s moves).playSessions.find id = some row' ∧ (row'.metadata.find "last_heartbeat_at").isSome := by
  refine run_keeps (fun row => (row.metadata.find "last_heartbeat_at").isSome) ?_ sound found heard moves
  intro s s' row _ heard turn
  cases turn with
  | heard seen beaten => exact ⟨_, seen.here, beaten.beat⟩
  | froze froze => exact ⟨_, froze.here, froze.stopped.beat ▸ heard⟩
  | cancelled seen cancelled => exact ⟨_, seen.here, cancelled.beat ▸ heard⟩

/-! ## Counting -/

/-- The plays under a key that the requests of one session add. -/
def growth (env : Formats ν) (id : Uuid) (key : Uuid × Uuid) : Store ν → List (Move ν) → Int
  | _, [] => 0
  | s, move :: moves =>
    (if move.sessionId = some id then playCount (next env s move) key - playCount s key else 0) +
      growth env id key (next env s move) moves

/-- What a session has added: its plays, once it is stopped normally. -/
def added (first : Row ν) (s : Store ν) (id : Uuid) (key : Uuid × Uuid) : Int :=
  if stoppedNormally s id then first.plays key else 0

theorem Row.Kept.plays (kept : row.Kept row') (key : Uuid × Uuid) : row'.plays key = row.plays key := by
  unfold Row.plays
  rw [kept.countsFor, kept.mediaItemId]

theorem added_of_open (found : s.playSessions.find id = some row)
    (opened : ¬ (row.stoppedAt.isSome ∧ cancelledBeforeStart row.metadata = false)) : added first s id key = 0 := by
  unfold added
  rw [if_neg fun normal => opened ((stoppedNormally_iff found).mp normal)]

theorem Turn.growth {first : Row ν} (turn : Turn env s s' id row) (found : s.playSessions.find id = some row)
    (sound : first.Sound row) (key : Uuid × Uuid) :
    playCount s' key - playCount s key = added first s' id key - added first s id key := by
  have before : added first s id key = 0 := by
    refine added_of_open found ?_
    rintro ⟨stopped, unflagged⟩
    exact turn.not_stopped stopped unflagged
  cases turn with
  | heard seen heard =>
    have after : added first s' id key = 0 := added_of_open seen.here (by simp [heard.after])
    rw [seen.plays key, before, after]
    omega
  | froze froze =>
    have after : added first s' id key = first.plays key :=
      if_pos ((stoppedNormally_iff froze.here).mpr ⟨froze.stopped.after, froze.stopped.flag⟩)
    rw [froze.plays key, before, after, sound.kept.plays]
    omega
  | cancelled seen cancelled =>
    have after : added first s' id key = 0 := added_of_open seen.here (by simp [cancelled.flag])
    rw [seen.plays key, before, after]
    omega

theorem next_growth (env : Formats ν) (sound : Sound first s id) (move : Move ν) (key : Uuid × Uuid) :
    (if move.sessionId = some id then playCount (next env s move) key - playCount s key else 0) =
      added first (next env s move) id key - added first s id key := by
  obtain ⟨row, found, valid⟩ := sound
  rcases next_cases env s move with same | ⟨mine, turned, named, there, turn⟩
  · rw [same]
    split <;> omega
  · by_cases here : mine = id
    · subst here
      cases found.symm.trans there
      rw [if_pos named]
      exact turn.growth found valid key
    · have unchanged : added first (next env s move) id key = added first s id key := by
        unfold added stoppedNormally
        rw [turn.others (Ne.symm here)]
      rw [named, if_neg (by simpa using here), unchanged]
      omega

theorem growth_eq (sound : Sound first s id) (moves : List (Move ν)) (key : Uuid × Uuid) :
    growth env id key s moves = added first (run env s moves) id key - added first s id key := by
  induction moves generalizing s with
  | nil => exact (Int.sub_self _).symm
  | cons move moves ih =>
    have rest := ih (next_sound env sound move)
    have step := next_growth env sound move key
    rw [growth, step, rest]
    have shape : run env s (move :: moves) = run env (next env s move) moves := rfl
    rw [shape]
    omega

/-! ## Answers -/

theorem frozenSnapshot_eq {snapshot : StopSnapshot ν}
    (fits : snapshot.Fits) (result : row.metadata.find resultKey = some snapshot.toValue) :
    frozenSnapshot env row data user = snapshot := by
  unfold frozenSnapshot
  rw [result, Option.bind_some, StopSnapshot.fromValue_toValue fits]

/-- The requests that stop a session for good. -/
def Move.stops (id : Uuid) : Move ν → Prop
  | .stop _ sessionId _ _ _ => sessionId = id
  | .freeze _ sessionId _ _ => sessionId = id
  | _ => False

/-- The row of a session that is stopped with this result. -/
structure Row.Frozen (row : Row ν) (snapshot : StopSnapshot ν) : Prop where
  stopped : row.stoppedAt.isSome
  unflagged : cancelledBeforeStart row.metadata = false
  fits : snapshot.Fits
  result : row.metadata.find resultKey = some snapshot.toValue

theorem stopping_stop :
    stopping env s (.stop user id position now teardown) =
      ((settle (freezeOnConnection env user id none position now) s).1.bind (stopSession teardown),
        (settle (freezeOnConnection env user id none position now) s).2) := rfl

theorem stopping_freeze :
    stopping env s (.freeze user id started now) =
      ((settle (freezeOnConnection env user id (some started) none now) s).1.map Prod.fst,
        (settle (freezeOnConnection env user id (some started) none now) s).2) := rfl

theorem stopSession_ok (answered : stopSession teardown frozen = .ok response) : frozen.1 = response := by
  obtain ⟨first, transcode⟩ := frozen
  cases transcode with
  | none => exact Except.ok.inj answered
  | some =>
    cases teardown with
    | ok => exact Except.ok.inj answered
    | error => cases answered

/-- A transaction that stops a session leaves the result it answers with. -/
theorem freeze_leaves (sound : Sound first s id)
    (ran : Yields (freezeOnConnection env user id expected position now) s answer s') :
    ∃ row snapshot, s'.playSessions.find id = some row ∧ row.Frozen snapshot ∧
      answer.1 = snapshot.response id first.mediaItemId first.playbackMode := by
  obtain ⟨row, found, valid⟩ := sound
  obtain ⟨held, there, -, unflagged, -, turned⟩ := freeze_yields ran
  cases found.symm.trans there
  rcases turned with ⟨stopped, rfl, response⟩ | ⟨row', snapshot, froze, response⟩
  · obtain ⟨snapshot, fits, result⟩ := valid.result stopped unflagged
    rw [frozenSnapshot_eq fits result, valid.kept.mediaItemId, valid.kept.playbackMode] at response
    exact ⟨row, snapshot, found, ⟨stopped, unflagged, fits, result⟩, response⟩
  · rw [valid.kept.mediaItemId, valid.kept.playbackMode] at response
    exact ⟨row', snapshot, froze.here, ⟨froze.stopped.after, froze.stopped.flag, froze.fits, froze.stopped.result⟩, response⟩

theorem stop_answered {stop : Move ν} (sound : Sound first s id)
    (stops : stop.stops id) (answered : (stopping env s stop).1 = .ok response) :
    ∃ row snapshot, (next env s stop).playSessions.find id = some row ∧ row.Frozen snapshot ∧
      response = snapshot.response id first.mediaItemId first.playbackMode := by
  cases stop with
  | heartbeat | cancel => exact stops.elim
  | stop user session position now teardown =>
    cases stops
    have here : next env s (.stop user id position now teardown) =
      (stopping env s (.stop user id position now teardown)).2 := rfl
    rw [here]
    rw [stopping_stop] at answered ⊢
    rcases settle_cases (freezeOnConnection env user id none position now) s with
      ⟨answer, after, ran, shape⟩ | ⟨error, -, shape⟩
    · rw [shape] at answered ⊢
      rw [← stopSession_ok answered]
      exact freeze_leaves sound ran
    · rw [shape] at answered
      cases answered
  | freeze user session started now =>
    cases stops
    have here : next env s (.freeze user id started now) = (stopping env s (.freeze user id started now)).2 := rfl
    rw [here]
    rw [stopping_freeze] at answered ⊢
    rcases settle_cases (freezeOnConnection env user id (some started) none now) s with
      ⟨answer, after, ran, shape⟩ | ⟨error, -, shape⟩
    · rw [shape] at answered ⊢
      cases answered
      exact freeze_leaves sound ran
    · rw [shape] at answered
      cases answered

/-- A stop of a session stopped before answers with the frozen result, unless the encoder
cannot be stopped again. -/
theorem stop_again (env : Formats ν) (found : s.playSessions.find id = some row) (frozen : row.Frozen snapshot)
    (position : Option Int) (now : Time) (teardown : Except PlaybackError Unit) :
    (stopping env s (.stop row.userId id position now teardown)).2 = s ∧
      ((stopping env s (.stop row.userId id position now teardown)).1 =
          .ok (snapshot.response id row.mediaItemId row.playbackMode) ∨
        ∃ error, teardown = .error error ∧
          (stopping env s (.stop row.userId id position now teardown)).1 = .error error) := by
  rw [stopping_stop, freeze_again found rfl rfl frozen.unflagged frozen.stopped,
    frozenSnapshot_eq frozen.fits frozen.result]
  refine ⟨rfl, ?_⟩
  cases teardown with
  | ok =>
    left
    cases transcodeId env row.metadata <;> rfl
  | error error =>
    cases transcodeId env row.metadata with
    | none => exact .inl rfl
    | some => exact .inr ⟨error, rfl, rfl⟩

theorem beating_settled {request : HeartbeatRequest}
    (found : s.playSessions.find id = some row) (settled : row.stoppedAt.isSome) (named : request.sessionId = some id) :
    beating env s actor request around = (.error .sessionNotFound, s) := by
  have absent : ((s.playSessions.find id).filter fun row =>
      row.userId = actor.userId && row.stoppedAt.isNone) = none := by
    rw [found, Option.filter_eq_none_iff]
    intro held there
    cases there
    simp [Option.isSome_iff_ne_none.mp settled]
  have refused : (heartbeat env actor request around).run s = .error .sessionNotFound := by
    unfold heartbeat
    rw [named, run_bind_of_yields (yields_demand.mpr ⟨rfl, rfl⟩), run_bind_of_yields (yields_get.mpr ⟨rfl, rfl⟩), absent]
    rfl
  unfold beating settle
  rw [refused]

/-- No request changes the history of a settled session. -/
theorem next_settled_data (found : s.playSessions.find id = some row)
    (settled : row.stoppedAt.isSome) {move : Move ν} (named : move.sessionId = some id) :
    (next env s move).userItemData = s.userItemData := by
  rcases next_cases env s move with same | ⟨mine, turned, about, there, turn⟩
  · rw [same]
  · cases named.symm.trans about
    cases found.symm.trans there
    have closed : row.stoppedAt ≠ none := Option.isSome_iff_ne_none.mp settled
    cases turn with
    | heard _ heard => exact (closed heard.before).elim
    | froze froze => exact (closed froze.stopped.before).elim
    | cancelled _ _ data => exact data

theorem run_append (left right : List (Move ν)) : run env s (left ++ right) = run env (run env s left) right := by
  unfold run
  exact List.foldl_append

/-! ## The law of a session -/

/-- From the start of a session on, under all requests about it and about others. Its plays
grow by one, and only once it is stopped normally. Stops after one that was answered
change nothing and answer the same, or report that the encoder cannot be stopped again.
A settled session refuses heartbeats and leaves the history alone. Stopped, cancelled and
heard sessions stay apart. -/
theorem session_settles_once (env : Formats ν) (found : s.playSessions.find id = some row) (started : row.Started)
    (earlier later : List (Move ν)) :
    (∀ key, growth env id key s earlier = if stoppedNormally (run env s earlier) id then row.plays key else 0) ∧
    (∀ stop response, stop.stops id → (stopping env (run env s earlier) stop).1 = .ok response →
      ∀ position now teardown,
        (stopping env (run env s (earlier ++ stop :: later)) (.stop row.userId id position now teardown)).2 =
            run env s (earlier ++ stop :: later) ∧
          ((stopping env (run env s (earlier ++ stop :: later)) (.stop row.userId id position now teardown)).1 =
              .ok response ∨
            ∃ error, teardown = .error error ∧
              (stopping env (run env s (earlier ++ stop :: later)) (.stop row.userId id position now teardown)).1 =
                .error error)) ∧
    (isSettled (run env s earlier) id = true →
      (∀ actor request around, request.sessionId = some id →
        beating env (run env s (earlier ++ later)) actor request around =
          (.error .sessionNotFound, run env s (earlier ++ later))) ∧
      ∀ move, move.sessionId = some id →
        (next env (run env s (earlier ++ later)) move).userItemData = (run env s (earlier ++ later)).userItemData) ∧
    (stoppedNormally (run env s earlier) id = true →
      stoppedNormally (run env s (earlier ++ later)) id = true ∧ isCancelled (run env s (earlier ++ later)) id = false) ∧
    (isCancelled (run env s earlier) id = true →
      isCancelled (run env s (earlier ++ later)) id = true ∧ stoppedNormally (run env s (earlier ++ later)) id = false) ∧
    (isHeard (run env s earlier) id = true → isCancelled (run env s (earlier ++ later)) id = false) := by
  have sound : Sound row s id := ⟨row, found, started.sound⟩
  have middle : Sound row (run env s earlier) id := run_sound env sound earlier
  obtain ⟨now, here, valid⟩ := middle
  rw [run_append]
  refine ⟨?_, ?_, ?_, ?_, ?_, ?_⟩
  · intro key
    have before : added row s id key = 0 := added_of_open found (by simp [started.stoppedAt])
    rw [growth_eq sound earlier key, before, Int.sub_zero]
    rfl
  · intro stop response stops answered position time teardown
    obtain ⟨frozen, snapshot, held, froze, rfl⟩ := stop_answered ⟨now, here, valid⟩ stops answered
    have kept : row.Kept frozen := by
      obtain ⟨other, there, valid⟩ := next_sound env ⟨now, here, valid⟩ stop
      cases held.symm.trans there
      exact valid.kept
    have stays : (run env s (earlier ++ stop :: later)).playSessions.find id = some frozen := by
      rw [run_append]
      exact run_stopped env held froze.stopped froze.unflagged later
    have again := stop_again env stays froze position time teardown
    rw [kept.userId, kept.mediaItemId, kept.playbackMode] at again
    exact again
  · intro settled
    obtain ⟨final, there, closed⟩ := run_settled env ⟨now, here, valid⟩ here (by simpa [isSettled, here] using settled) later
    exact ⟨fun actor request around named => beating_settled there closed named,
      fun move named => next_settled_data there closed named⟩
  · intro normal
    obtain ⟨stopped, unflagged⟩ := (stoppedNormally_iff here).mp normal
    have there := run_stopped env here stopped unflagged later
    exact ⟨(stoppedNormally_iff there).mpr ⟨stopped, unflagged⟩, by simp [isCancelled, there, unflagged]⟩
  · intro cancelled
    obtain ⟨final, there, flagged⟩ := run_cancelled env ⟨now, here, valid⟩ here (by simpa [isCancelled, here] using cancelled) later
    exact ⟨by simp [isCancelled, there, flagged], by simp [stoppedNormally, there, flagged]⟩
  · intro heard
    obtain ⟨final, there, beaten⟩ := run_heard env ⟨now, here, valid⟩ here (by simpa [isHeard, here] using heard) later
    obtain ⟨other, same, valid⟩ := run_sound env ⟨now, here, valid⟩ later
    cases there.symm.trans same
    cases flag : cancelledBeforeStart final.metadata with
    | false => simp [isCancelled, there, flag]
    | true =>
      rw [(valid.flagged flag).2] at beaten
      cases beaten

/-! ## A transcoded session -/

namespace Evening

def viewer : Uuid := 11
def profile : Uuid := 12
def film : Uuid := 13
def file : Uuid := 14
def encoder : Uuid := 15
def session : Uuid := 16

/-- The text of the identifiers here, and percentages without rounding. -/
def formats : Formats ℚ where
  uuidText id := if id = encoder then "00000000-0000-0000-0000-00000000000f" else "00000000-0000-0000-0000-00000000000e"
  parseUuid text :=
    if text = "00000000-0000-0000-0000-00000000000f" then some encoder
    else if text = "00000000-0000-0000-0000-00000000000e" then some file else none
  rfc3339 _ := "2026-11-01T20:00:00+00:00"
  percent position runtime := min (100 * position / (runtime * 1000)) 100
  reached percent := 90 ≤ percent
  ofInteger value := value

def start : Start ℚ where
  userId := viewer
  profileId := profile
  mediaItemId := film
  playbackMode := .interactive
  streamDecision := "transcode"
  transcodeSessionId := some encoder
  mediaFileId := some file
  qualityMode := none
  maxStreamingBitrate := none
  directContext := none
  sourceRoute := none

def store : Store ℚ where
  playSessions := Table.empty.put session (createPlaySession formats start 0)
  userItemData := Table.empty
  playEvents := []
  mediaFiles := Table.empty.put file ⟨film, some 100⟩

/-- A heartbeat at half the film. -/
def beat : Move ℚ :=
  .heartbeat ⟨viewer, profile⟩ ⟨some session, some 50000, none, none, none, some encoder, false, none, none⟩
    ⟨second, .ok none⟩

def stop (position : Int) (teardown : Except PlaybackError Unit) : Move ℚ :=
  .stop viewer session (some position) (2 * second) teardown

end Evening

/-- All of it for one evening: a heartbeat, a stop, a heartbeat and a second stop. -/
theorem evening_settles_once :
    growth Evening.formats Evening.session (Evening.profile, Evening.film) Evening.store
        [Evening.beat, Evening.stop 95000 (.ok ()), Evening.beat, Evening.stop 0 (.ok ())] = 1 ∧
      isCancelled (run Evening.formats Evening.store
        ([Evening.beat, Evening.stop 95000 (.ok ()), Evening.beat, Evening.stop 0 (.ok ())] ++
          [.cancel Evening.viewer Evening.session (3 * second) (.ok ())])) Evening.session = false := by
  have found : Evening.store.playSessions.find Evening.session = some (createPlaySession Evening.formats Evening.start 0) :=
    Table.find_put_self _ _ _
  have law := session_settles_once Evening.formats found (createPlaySession_started Evening.formats Evening.start 0)
    [Evening.beat, Evening.stop 95000 (.ok ()), Evening.beat, Evening.stop 0 (.ok ())]
    [.cancel Evening.viewer Evening.session (3 * second) (.ok ())]
  refine ⟨(law.1 (Evening.profile, Evening.film)).trans ?_, ?_⟩
  · decide +kernel
  · exact (law.2.2.2.1 (by decide +kernel)).2

/-- The second stop is not answered with the result of the first, when the slots for
stopping encoders are all taken. -/
theorem second_stop_refused :
    (stopping Evening.formats Evening.store (Evening.stop 95000 (.ok ()))).1.isOk = true ∧
      (stopping Evening.formats (run Evening.formats Evening.store [Evening.stop 95000 (.ok ())])
        (Evening.stop 95000 (.error .lifecycleUnavailable))).1 matches .error .lifecycleUnavailable := by
  decide +kernel

end Duskcue.PlaySession
