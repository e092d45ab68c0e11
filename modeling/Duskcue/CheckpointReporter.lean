import Mathlib.Algebra.Ring.Int.Defs
import Mathlib.Data.Rat.Defs

/-! The checkpoint reporter of the web client, `createCheckpoints`. A call runs to its end, but a
report, a forced flush and a `reconcile` go on in promises: each of their reactions is a move of its
own, and any call may come between two of them. -/
namespace Duskcue.CheckpointReporter

def protocol : List Char := "duskcue-vod-command/2".toList

/-- `/^[0-9a-f]{8}-[0-9a-f]{4}-7[0-9a-f]{3}-[89ab][0-9a-f]{3}-[0-9a-f]{12}$/`. -/
def uuid (value : List Char) : Bool :=
  value.length = 36 && value.zipIdx.all fun (letter, place) =>
    if place ∈ [8, 13, 18, 23] then letter = '-'
    else if place = 14 then letter = '7'
    else if place = 19 then letter ∈ ['8', '9', 'a', 'b']
    else '0' ≤ letter && letter ≤ '9' || 'a' ≤ letter && letter ≤ 'f'

def maxSafeInteger : Int := 2 ^ 53 - 1

/-- `Number.isSafeInteger`. -/
def isSafeInteger (n : Int) : Bool := -maxSafeInteger ≤ n && n ≤ maxSafeInteger

/-- `++` on a number: `2 ** 53 + 1` is `2 ** 53`. -/
def increment (n : Int) : Int := if n ≤ maxSafeInteger then n + 1 else n

/-- What the player says. A position that is no integer is `none`. -/
structure Observation where
  attached : Bool
  output : List Char
  position : Option Int
  state : List Char

structure Sample where
  output : List Char
  position : Int
  state : List Char

structure Body where
  protocol : List Char
  outputRevision : List Char
  sequence : Int
  positionMs : Int
  playbackState : List Char
  deriving DecidableEq

/-- What the server answers. A number that is no integer is `none`, and so is `null`. -/
structure Reply where
  protocol : List Char
  sequence : Option Int
  outputRevision : Option (List Char)
  positionMs : Option Int
  playbackState : List Char

/-- A report, with the epoch it was made up in. -/
structure Report where
  id : Nat
  epoch : Nat
  body : Body
  deriving DecidableEq

/-- How far the promise of a report has come. -/
inductive Phase
  /-- `send` is not called yet. -/
  | queued
  | sent
  | failing
  | settled (failed : Bool)

structure Pending where
  report : Report
  phase : Phase

/-- What a promise waits for. -/
inductive Waits
  | value
  | report (id : Nat)
  | work (id : Nat)

inductive WorkPhase
  | after (report : Nat)
  | ready
  | awaiting (promise : Waits)

/-- A forced flush behind the report in flight. -/
structure Work where
  id : Nat
  epoch : Nat
  phase : WorkPhase

inductive ReadingPhase
  | held (report : Nat)
  | reading

/-- A call of `reconcile`. -/
structure Reading where
  id : Nat
  epoch : Nat
  phase : ReadingPhase

inductive Event
  /-- A flush has made a report of its sample, for an output that is current or not. -/
  | made (report : Report) (current : Bool)
  /-- `send` has been called, while the output is current or not. -/
  | sent (report : Report) (current : Bool)
  | answered (report : Report)
  | failed (report : Report) (epoch : Nat)
  | reconciled (epoch : Nat) (sequence : Int)
  | reset

/-- The variables of a reporter, the promises under way, and the record of what happened, the
latest first. -/
structure State where
  sequence : Int := 0
  inFlight : Option Nat := none
  latest : Option Sample := none
  uncertain : Bool := false
  /-- `none` is `-Infinity`. -/
  last : Option Rat := none
  confirmed : Option Reply := none
  forced : Option Nat := none
  epoch : Nat := 0
  pending : List Pending := []
  works : List Work := []
  readings : List Reading := []
  made : Nat := 0
  log : List Event := []

/-- What `current` and `now` answer. -/
structure Env where
  current : List Char → Bool
  now : Rat

/-- `confirmed?.sequence || 0`. -/
def confirmedSequence (confirmed : Option Reply) : Int := (confirmed.bind Reply.sequence).getD 0

/-- Whether an answer repeats the report. -/
def repeats (body : Body) (reply : Reply) : Bool :=
  reply.protocol = protocol && reply.sequence = some body.sequence &&
    reply.outputRevision = some body.outputRevision && reply.positionMs = some body.positionMs &&
      reply.playbackState = body.playbackState

namespace State

/-- `observe`, with what it returns. -/
def observe (env : Env) (value : Option Observation) (s : State) : State × Option Bool :=
  match value with
  | none => (s, none)
  | some value =>
    match value.position with
    | none => (s, none)
    | some position =>
      if value.attached && uuid value.output && isSafeInteger position && 0 ≤ position &&
          ["playing".toList, "paused".toList, "buffering".toList].contains value.state && env.current value.output then
        let previous := (s.latest.map fun sample => (some sample.output, sample.state)) <|>
          s.confirmed.map fun reply => (reply.outputRevision, reply.playbackState)
        ({ s with latest := some ⟨value.output, position, value.state⟩ },
          some (previous ≠ some (some value.output, value.state)))
      else (s, none)

/-- `now() - last < 15_000`. -/
def recent (env : Env) (s : State) : Bool := s.last.any fun last => env.now - last < 15000

/-- `flush`, with what its promise waits for. -/
def flush (env : Env) (force : Bool) (s : State) : State × Waits :=
  match s.inFlight with
  | some report =>
    if !force then (s, .report report)
    else match s.forced with
      | some work => (s, .work work)
      | none =>
        ({ s with forced := some s.made, works := ⟨s.made, s.epoch, .after report⟩ :: s.works, made := s.made + 1 },
          .work s.made)
  | none =>
    match s.latest with
    | none => (s, .value)
    | some sample =>
      if s.uncertain || !env.current sample.output || !force && s.recent env then (s, .value)
      else
        let sequence := increment s.sequence
        let s := { s with latest := none, sequence }
        if !isSafeInteger sequence then (s, .value)
        else
          let report := ⟨s.made, s.epoch, ⟨protocol, sample.output, sequence, sample.position, sample.state⟩⟩
          ({ s with
              last := some env.now, inFlight := some s.made, pending := ⟨report, .queued⟩ :: s.pending
              made := s.made + 1, log := .made report (env.current sample.output) :: s.log }, .report s.made)

/-- `reconcile` up to what it first awaits. -/
def reconcile (s : State) : State :=
  { s with readings := ⟨s.made, s.epoch, s.inFlight.elim .reading .held⟩ :: s.readings, made := s.made + 1 }

def discard (s : State) : State := { s with latest := none }

def reset (s : State) : State :=
  { s with
    epoch := s.epoch + 1, sequence := 0, confirmed := none, latest := none, uncertain := false, forced := none
    log := .reset :: s.log }

/-! ### The promise of a report -/

def setPhase (s : State) (id : Nat) (phase : Phase) : State :=
  { s with pending := s.pending.map fun pending => if pending.report.id = id then { pending with phase } else pending }

def record (s : State) (event : Event) : State := { s with log := event :: s.log }

def dispatch (env : Env) (report : Report) (s : State) : State :=
  (s.setPhase report.id .sent).record (.sent report (env.current report.body.outputRevision))

/-- `send` has thrown or been rejected, or its answer is not valid. -/
def fail (report : Report) (s : State) : State :=
  (s.setPhase report.id .failing).record (.failed report s.epoch)

def answer (report : Report) (value : Option Reply) (s : State) : State :=
  if report.epoch ≠ s.epoch then s.setPhase report.id (.settled false)
  else match value.filter (repeats report.body) with
    | none => s.fail report
    | some reply => { (s.setPhase report.id (.settled false)).record (.answered report) with confirmed := some reply }

/-- The `catch` of a report. -/
def caught (report : Report) (s : State) : State :=
  { s.setPhase report.id (.settled true) with uncertain := report.epoch = s.epoch || s.uncertain }

/-- The `finally` of a report, and what its promise then does to the forced flushes behind it. -/
def finalize (report : Report) (failed : Bool) (s : State) : State :=
  { s with
    inFlight := none, pending := s.pending.filter (·.report.id ≠ report.id)
    works := s.works.map fun work => match work.phase with
      | .after id => if id = report.id then { work with phase := if failed then .awaiting .value else .ready } else work
      | _ => work }

/-! ### Forced flushes and readings -/

def settled (s : State) : Waits → Bool
  | .value => true
  | .report id => s.pending.all (·.report.id ≠ id)
  | .work id => s.works.all (·.id ≠ id)

def setWork (s : State) (id : Nat) (phase : WorkPhase) : State :=
  { s with works := s.works.map fun work => if work.id = id then { work with phase } else work }

/-- `token === epoch ? flush(true) : null`. -/
def chain (env : Env) (work : Work) (s : State) : State :=
  let (s, waits) := if work.epoch = s.epoch then s.flush env true else (s, .value)
  s.setWork work.id (.awaiting waits)

/-- The `finally` of a forced flush. -/
def finish (work : Work) (s : State) : State :=
  { s with works := s.works.filter (·.id ≠ work.id), forced := if s.forced = some work.id then none else s.forced }

def removeReading (s : State) (id : Nat) : State := { s with readings := s.readings.filter (·.id ≠ id) }

/-- `reconcile` behind its report. -/
def resume (reading : Reading) (s : State) : State :=
  if reading.epoch ≠ s.epoch then s.removeReading reading.id
  else { s with
    readings := s.readings.map fun other => if other.id = reading.id then { other with phase := .reading } else other }

/-- What `reconcile` accepts: the sequence read. -/
def accepted (env : Env) (value : Option Reply) (s : State) : Option (Reply × Int) :=
  match value with
  | none => none
  | some reply =>
    match reply.sequence with
    | none => none
    | some sequence =>
      if reply.protocol = protocol && isSafeInteger sequence && confirmedSequence s.confirmed ≤ sequence &&
          reply.outputRevision.all (fun output => uuid output && env.current output) then some (reply, sequence)
      else none

/-- `reconcile` behind its `read`. -/
def adopt (env : Env) (reading : Reading) (value : Option Reply) (s : State) : State :=
  let s := s.removeReading reading.id
  if reading.epoch ≠ s.epoch then s
  else match s.accepted env value with
    | none => s
    | some (reply, sequence) =>
      { s.record (.reconciled s.epoch sequence) with
        sequence := max s.sequence sequence, confirmed := some reply, uncertain := false }

end State

inductive Move
  | observe (value : Option Observation)
  | flush (force : Bool)
  | reconcile
  | discard
  | reset
  | dispatch (report : Nat)
  | answer (report : Nat) (value : Option Reply)
  | fail (report : Nat)
  | caught (report : Nat)
  | finalize (report : Nat)
  | chain (work : Nat)
  | finish (work : Nat)
  | resume (reading : Nat)
  | adopt (reading : Nat) (value : Option Reply)
  /-- `read` has thrown or been rejected. -/
  | unread (reading : Nat)

/-- A move changes nothing where its promise does not stand there. -/
def step (s : State) : Env × Move → State
  | (env, .observe value) => (s.observe env value).1
  | (env, .flush force) => (s.flush env force).1
  | (_, .reconcile) => s.reconcile
  | (_, .discard) => s.discard
  | (_, .reset) => s.reset
  | (env, .dispatch id) => match s.pending.find? (·.report.id = id) with
    | some ⟨report, .queued⟩ => s.dispatch env report
    | _ => s
  | (_, .answer id value) => match s.pending.find? (·.report.id = id) with
    | some ⟨report, .sent⟩ => s.answer report value
    | _ => s
  | (_, .fail id) => match s.pending.find? (·.report.id = id) with
    | some ⟨report, .sent⟩ => s.fail report
    | _ => s
  | (_, .caught id) => match s.pending.find? (·.report.id = id) with
    | some ⟨report, .failing⟩ => s.caught report
    | _ => s
  | (_, .finalize id) => match s.pending.find? (·.report.id = id) with
    | some ⟨report, .settled failed⟩ => s.finalize report failed
    | _ => s
  | (env, .chain id) => match s.works.find? (·.id = id) with
    | some work => match work.phase with
      | .ready => s.chain env work
      | _ => s
    | none => s
  | (_, .finish id) => match s.works.find? (·.id = id) with
    | some work => match work.phase with
      | .awaiting promise => if s.settled promise then s.finish work else s
      | _ => s
    | none => s
  | (_, .resume id) => match s.readings.find? (·.id = id) with
    | some reading => match reading.phase with
      | .held report => if s.settled (.report report) then s.resume reading else s
      | _ => s
    | none => s
  | (env, .adopt id value) => match s.readings.find? (·.id = id) with
    | some reading => match reading.phase with
      | .reading => s.adopt env reading value
      | _ => s
    | none => s
  | (_, .unread id) => match s.readings.find? (·.id = id) with
    | some reading => match reading.phase with
      | .reading => s.removeReading reading.id
      | _ => s
    | none => s

/-- A new reporter, behind the moves. -/
def run (moves : List (Env × Move)) : State := moves.foldl step {}

end Duskcue.CheckpointReporter
