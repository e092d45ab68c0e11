import Duskcue.PlaybackSystem

/-! The owner of `services/playback_admission/owner`: one process with its gate map, its
entries and the tasks that it spawns. A move is one thing a task does between two points
where others can run: a transaction of the ledger, a section under the gate's lock, or
an access of an entry. Permits are not counted; where one is refused the move says so.
The process clock and the database clock count the same microseconds, some constant
apart. -/
namespace Duskcue.AdmissionOwner
open Playback (Uuid Time Request Binding Receipt Reply AdmissionError Authority System
  ConfigurationResponse)

/-- `REGULAR_OPERATIONS`. -/
def regularOperations : Nat := 7

/-- Which `Entry` an `Arc` points to. -/
abbrev Handle := Nat

/-- The token, the flags and the watch channel of an `Entry`. The version counts what was
sent on the channel. -/
structure Entry where
  request : Request
  binding : Option Binding
  cancelled : Bool
  pending : Bool
  attached : Bool
  checking : Bool
  deadline : Option Time
  version : Nat
  completed : Bool

namespace Entry

def new (request : Request) (binding : Option Binding) : Entry :=
  ⟨request, binding, false, true, false, false, none, 0, false⟩

def cancel (entry : Entry) : Entry := { entry with cancelled := true }

/-- `deadline.send_replace(Some(..))`. -/
def install (entry : Entry) (deadline : Time) : Entry :=
  { entry with deadline := some deadline, version := entry.version + 1 }

/-- Nothing of the entry runs, or what ran is over. -/
def idle (entry : Entry) : Bool := !entry.attached || entry.completed

end Entry

/-- The deadline on the process clock: what is left by the receipt, from when the
transaction began. -/
def localDeadline (began : Time) (receipt : Receipt) : Time :=
  began + max (receipt.deadline - receipt.observedAt) 0

/-! ## Transactions -/

/-- What becomes of a transaction: it is answered, it fails before COMMIT, or COMMIT is
sent and no answer comes. -/
inductive Fate
  | answered
  | unavailable
  | uncertain (committed : Bool)

/-- What the outside adds to a step: the readings of the clock and the answers of other
domains in a transaction, and its fate. -/
structure Input where
  elapsed : List Nat
  authority : Authority
  fate : Fate

def outcome : Reply → Except AdmissionError Reply
  | .refused failure => .error failure.answer
  | reply => .ok reply

/-- The receipt a claim or a check is answered with. -/
def receipted : Except AdmissionError Reply → Except AdmissionError Receipt
  | .ok (.receipt receipt) => .ok receipt
  | .ok _ => .error .storage
  | .error error => .error error

/-- `database::transaction`, as its caller sees it. -/
def exchange (digest : ConfigurationResponse → Option String) (db : System) (action : Playback.Action)
    (input : Input) : Except AdmissionError Reply × System :=
  let (reply, after) := Playback.step digest db ⟨input.elapsed, action⟩
  match input.fate, outcome reply with
  | .unavailable, _ => (.error .storage, db)
  | .answered, result => (result, after)
  | .uncertain _, .error error => (.error error, after)
  | .uncertain committed, .ok _ => (.error .indeterminate, if committed then after else db)

/-! ## Tasks -/

/-- The task of `enqueue`. -/
inductive StartPhase
  | spawned
  | claiming (began : Time)
  | claimed (began : Time) (result : Except AdmissionError Receipt)
  | installed
  | settled

/-- The task of `queue_check`. -/
inductive CheckPhase
  | spawned
  | checking (began : Time)
  | checked (began : Time) (result : Except AdmissionError Receipt)

/-- The task `monitor` spawns for an entry. -/
inductive VisitPhase
  | spawned
  | checking
  | checked (ok : Bool)
  | judging
  | retiring
  | retired (ok : Bool)
  | releasing
  | removing
  | finishing

/-- `resource`. It waits for the factory, the token, an instant and the channel, whose last
version it has seen. -/
inductive ResourcePhase
  | spawned
  | looping (seen : Nat)
  | waiting (expires : Time) (seen : Nat)
  | stopping
  | awaiting (since : Time) (late : Bool)
  | ended (ok : Bool)
  | failing
  | failed
  | completing
  | releasing
  | removing
  | quit

/-- `drain`. -/
inductive DrainPhase
  | waiting
  | cleaning (rest : List Handle)
  | removing (id : Uuid) (rest : List Handle)
  | failed (rest : List Handle)

/-- The task a factory runs in, which `resource` spawns first of all. -/
inductive Factory
  | launched
  | running
  | finished (ok : Bool)

/-- A task of `resource` is kept when it is over, with how its factory ended. -/
inductive Task
  | start (request : Request) (binding : Option Binding) (entry : Handle) (inserted : Bool)
      (phase : StartPhase)
  | check (request : Request) (renew : Bool) (entry : Handle) (phase : CheckPhase)
  | visit (entry : Handle) (phase : VisitPhase)
  | resource (entry : Handle) (factory : Factory) (phase : ResourcePhase)
  | drain (phase : DrainPhase)

/-- The tracker waits for every task but the callers of `drain`. -/
def Task.tracked : Task → Bool
  | .drain _ | .resource _ _ .quit => false
  | _ => true

/-- The loop that calls `monitor` every second. -/
inductive Monitor
  | idle
  | passing (rest : List Handle)
  | marked (entry : Handle) (rest : List Handle)
  | ended

/-! ## The process and the database -/

/-- `AdmissionOwner`, with what it has spawned and the database it shares with others. Its
clock is `offset` behind that of the database. -/
structure World where
  db : System
  offset : Int
  owner : Uuid
  closed : Bool
  failed : Bool
  maintenanceLost : Bool
  entries : Table Uuid Handle
  objects : Table Handle Entry
  tasks : Table Nat Task
  scan : Nat
  monitor : Monitor

namespace World

/-- `AdmissionOwner::create`, once its instance is registered. -/
def opened (db : System) (offset : Int) (owner : Uuid) : World where
  db := db
  offset := offset
  owner := owner
  closed := false
  failed := false
  maintenanceLost := false
  entries := .empty
  objects := .empty
  tasks := .empty
  scan := 0
  monitor := .idle

/-- `Instant::now`. -/
def now (w : World) : Time := w.db.store.clock - w.offset

def setEntry (w : World) (handle : Handle) (f : Entry → Entry) : World :=
  { w with objects := w.objects.amend fun h entry => if h = handle then f entry else entry }

def fail (w : World) : World := { w with failed := true }

/-- `AdmissionOwner::remove`. -/
def remove (w : World) (id : Uuid) : World := { w with entries := w.entries.remove id }

def spawn (w : World) (task : Task) : World := { w with tasks := w.tasks.put w.tasks.unused task }

def finish (w : World) (id : Nat) : World := { w with tasks := w.tasks.remove id }

/-- The task goes on as `task`. -/
def become (w : World) (id : Nat) (task : Task) : World := { w with tasks := w.tasks.put id task }

/-- `AdmissionOwner::entries`: the values of the gate map, in the order of its keys. -/
def values (w : World) : List Handle :=
  ((w.entries.select fun _ _ => true).insertionSort fun a b => a.toNat ≤ b.toNat).filterMap
    w.entries.find

/-! ## Commands -/

/-- What `enqueue` does under the gate's lock. -/
def enqueue (w : World) (request : Request) (binding : Option Binding) (permit : Bool) :
    Except AdmissionError World :=
  match request.encode with
  | .error failure => .error failure.answer
  | .ok fingerprint =>
    if !permit then .error .capacity
    else if w.closed || w.failed || w.maintenanceLost then .error .closed
    else
      match w.entries.find request.id with
      | some handle =>
        match w.objects.find handle with
        | none => .error .storage
        | some entry =>
          if entry.request.encode ≠ .ok fingerprint ∨ entry.binding ≠ binding then .error .conflict
          else if entry.pending then .error .pending
          else .ok (w.spawn (.start request binding handle false .spawned))
      | none =>
        if 128 ≤ w.entries.count fun _ _ => true then .error .capacity
        else
          let handle := w.objects.unused
          .ok ({ w with
            objects := w.objects.put handle (.new request binding)
            entries := w.entries.put request.id handle }.spawn
              (.start request binding handle true .spawned))

/-- What `queue_check` does under the gate's lock. -/
def queueCheck (w : World) (request : Request) (renew permit : Bool) : Except AdmissionError World :=
  if !permit then .error .capacity
  else if w.closed || w.failed then .error .closed
  else
    match w.entries.find request.id with
    | none => .error .retired
    | some handle =>
      match w.objects.find handle with
      | none => .error .storage
      | some entry =>
        match request.encode with
        | .error failure => .error failure.answer
        | .ok fingerprint =>
          if entry.request.encode ≠ .ok fingerprint then .error .conflict
          else if entry.pending || entry.cancelled then .error .retired
          else .ok (w.spawn (.check request renew handle .spawned))

/-- `AdmissionOwner::stop`. -/
def stop (w : World) (id : Uuid) : World :=
  match w.entries.find id with
  | none => w
  | some handle => w.setEntry handle .cancel

/-- `AdmissionOwner::close`. -/
def close (w : World) : World :=
  { w with
    closed := true
    objects := w.objects.amend fun h entry =>
      if w.entries.holds fun _ handle => handle = h then entry.cancel else entry }

/-! ## The monitor -/

/-- A pass begins with a rotated copy of the gate map's entries. The loop ends once the
owner is closed. -/
def beginPass (w : World) (ends : Bool) : World :=
  match w.monitor with
  | .idle =>
    if w.closed && ends then { w with monitor := .ended }
    else
      let entries := w.values
      if entries.isEmpty then w
      else { w with
        monitor := .passing (entries.rotate (w.scan % entries.length))
        scan := w.scan + regularOperations }
  | _ => w

/-- One entry of a pass: it is left out while pending or visited, and else marked and
given to a task of its own. A closed gate ends the pass and leaves the mark. -/
def pass (w : World) (permit : Bool) : World :=
  match w.monitor with
  | .passing [] => { w with monitor := .idle }
  | .passing (handle :: rest) =>
    match w.objects.find handle with
    | none => { w with monitor := .passing rest }
    | some entry =>
      if entry.pending || entry.checking then { w with monitor := .passing rest }
      else { w.setEntry handle fun e => { e with checking := true } with
        monitor := .marked handle rest }
  | .marked handle rest =>
    if !permit then
      { w.setEntry handle fun e => { e with checking := false } with monitor := .passing rest }
    else if w.closed then { w with monitor := .idle }
    else { w.spawn (.visit handle .spawned) with monitor := .passing rest }
  | _ => w

/-! ## Steps of the tasks -/

variable (digest : ConfigurationResponse → Option String)

/-- A transaction of the ledger, and what its caller is told. -/
def ask (w : World) (action : Playback.Action) (input : Input) :
    Except AdmissionError Reply × World :=
  let (result, db) := exchange digest w.db action input
  (result, { w with db })

def retire (w : World) (request : Request) (release : Bool) (input : Input) : Bool × World :=
  let (result, after) := w.ask digest (.retire w.owner request release) input
  (result.isOk, after)

def stepStart (w : World) (id : Nat) (request : Request) (binding : Option Binding) (handle : Handle)
    (inserted : Bool) (input : Input) : StartPhase → World
  | .spawned => w.become id (.start request binding handle inserted (.claiming w.now))
  | .claiming began =>
    let (result, after) := w.ask digest (.claim w.owner request inserted binding input.authority) input
    after.become id (.start request binding handle inserted (.claimed began (receipted result)))
  | .claimed began result =>
    if !inserted then w.finish id
    else
      match result with
      | .ok receipt =>
        if receipt.fresh && receipt.state = .held then
          (w.setEntry handle fun e => e.install (localDeadline began receipt)).become id
            (.start request binding handle inserted .installed)
        else (w.remove request.id).become id (.start request binding handle inserted .settled)
      | .error .indeterminate =>
        (w.setEntry handle .cancel).become id (.start request binding handle inserted .settled)
      | .error _ =>
        (w.remove request.id).become id (.start request binding handle inserted .settled)
  | .installed =>
    match w.objects.find handle with
    | none => w
    | some entry =>
      if !w.closed && !entry.cancelled then
        ((w.setEntry handle fun e => { e with attached := true }).become id
          (.start request binding handle inserted .settled)).spawn (.resource handle .launched .spawned)
      else (w.setEntry handle .cancel).become id (.start request binding handle inserted .settled)
  | .settled => (w.setEntry handle fun e => { e with pending := false }).finish id

def stepCheck (w : World) (id : Nat) (request : Request) (renew : Bool) (handle : Handle)
    (input : Input) : CheckPhase → World
  | .spawned => w.become id (.check request renew handle (.checking w.now))
  | .checking began =>
    match w.objects.find handle with
    | none => w
    | some entry =>
      let (result, after) :=
        w.ask digest (.check w.owner request renew entry.binding input.authority) input
      after.become id (.check request renew handle (.checked began (receipted result)))
  | .checked began (.ok receipt) =>
    (if renew then w.setEntry handle fun e => e.install (localDeadline began receipt) else w).finish id
  | .checked _ (.error _) => (w.setEntry handle .cancel).finish id

def stepVisit (w : World) (id : Nat) (handle : Handle) (entry : Entry) (input : Input) :
    VisitPhase → World
  | .spawned => w.become id (.visit handle (if entry.cancelled then .judging else .checking))
  | .checking =>
    let (result, after) :=
      w.ask digest (.check w.owner entry.request false entry.binding input.authority) input
    after.become id (.visit handle (.checked result.isOk))
  | .checked ok => (if ok then w else w.setEntry handle .cancel).become id (.visit handle .judging)
  | .judging => w.become id (.visit handle (if entry.cancelled then .retiring else .finishing))
  | .retiring =>
    let (ok, after) := w.retire digest entry.request false input
    after.become id (.visit handle (.retired ok))
  | .retired ok =>
    (if ok then w else w.fail).become id
      (.visit handle (if entry.idle then .releasing else .finishing))
  | .releasing =>
    let (ok, after) := w.retire digest entry.request true input
    after.become id (.visit handle (if ok then .removing else .finishing))
  | .removing => (w.remove entry.request.id).become id (.visit handle .finishing)
  | .finishing => (w.setEntry handle fun e => { e with checking := false }).finish id

/-- One turn of `resource`. Its `select` is biased: the factory first, then the token, the
instant and the channel. -/
def stepResource (w : World) (id : Nat) (handle : Handle) (entry : Entry) (factory : Factory)
    (input : Input) : ResourcePhase → World
  | .spawned => w.become id (.resource handle .running (.looping entry.version))
  | .looping seen => w.become id (.resource handle factory (.waiting (entry.deadline.getD w.now) seen))
  | .waiting expires seen =>
    match factory with
    | .finished ok => w.become id (.resource handle factory (.ended ok))
    | _ =>
      if entry.cancelled then w.become id (.resource handle factory .stopping)
      else if expires ≤ w.now then
        (w.setEntry handle .cancel).become id (.resource handle factory (.looping seen))
      else if entry.version ≠ seen then w.become id (.resource handle factory (.looping entry.version))
      else w
  | .stopping =>
    let (_, after) := w.retire digest entry.request false input
    after.become id (.resource handle factory (.awaiting after.now false))
  | .awaiting since late =>
    match factory with
    | .finished ok => w.become id (.resource handle factory (.ended ok))
    | _ =>
      if !late && since + 10 * Playback.second ≤ w.now then
        w.fail.become id (.resource handle factory (.awaiting since true))
      else w
  | .ended ok =>
    (w.setEntry handle .cancel).become id
      (.resource handle factory (if ok then .completing else .failing))
  | .failing =>
    let (_, after) := w.retire digest entry.request false input
    after.become id (.resource handle factory .failed)
  | .failed => w.fail.become id (.resource handle factory .quit)
  | .completing =>
    (w.setEntry handle fun e => { e with completed := e.binding.isSome }).become id
      (.resource handle factory .releasing)
  | .releasing =>
    let (ok, after) := w.retire digest entry.request true input
    after.become id (.resource handle factory (if ok then .removing else .failed))
  | .removing => (w.remove entry.request.id).become id (.resource handle factory .quit)
  | .quit => w

/-- One turn of `drain`, which begins once every tracked task is over. -/
def stepDrain (w : World) (id : Nat) (input : Input) : DrainPhase → World
  | .waiting =>
    match w.monitor with
    | .ended =>
      if w.tasks.holds fun _ task => task.tracked then w
      else w.become id (.drain (.cleaning w.values))
    | _ => w
  | .cleaning [] => w.finish id
  | .cleaning (handle :: rest) =>
    match w.objects.find handle with
    | none => w.become id (.drain (.cleaning rest))
    | some entry =>
      if entry.idle then
        let (ok, after) := w.retire digest entry.request true input
        after.become id (.drain (if ok then .removing entry.request.id rest else .failed rest))
      else w.become id (.drain (.cleaning rest))
  | .removing id' rest => (w.remove id').become id (.drain (.cleaning rest))
  | .failed rest => w.fail.become id (.drain (.cleaning rest))

/-- What a task does next. -/
def stepTask (w : World) (id : Nat) (input : Input) : World :=
  match w.tasks.find id with
  | none => w
  | some (.start request binding handle inserted phase) =>
    w.stepStart digest id request binding handle inserted input phase
  | some (.check request renew handle phase) => w.stepCheck digest id request renew handle input phase
  | some (.visit handle phase) =>
    match w.objects.find handle with
    | none => w
    | some entry => w.stepVisit digest id handle entry input phase
  | some (.resource handle factory phase) =>
    match w.objects.find handle with
    | none => w
    | some entry => w.stepResource digest id handle entry factory input phase
  | some (.drain phase) => w.stepDrain digest id input phase

end World

/-! ## Moves -/

inductive Move
  | start (request : Request) (binding : Option Binding) (permit : Bool)
  | check (request : Request) (renew permit : Bool)
  | stop (id : Uuid)
  | close
  | drain
  | loseMaintenance
  | beginPass (ends : Bool)
  | pass (permit : Bool)
  | task (id : Nat) (input : Input)
  | factory (task : Nat) (ok : Bool)
  | others (move : Playback.Move)
  | wait (time : Nat)

/-- Only the owner claims and retires for its instance. -/
def owned (owner : Uuid) : Playback.Action → Bool
  | .claim instanceId .. => instanceId = owner
  | .retire instanceId .. => instanceId = owner
  | _ => false

section
variable (digest : ConfigurationResponse → Option String)

def next (w : World) : Move → World
  | .start request binding permit => (w.enqueue request binding permit).toOption.getD w
  | .check request renew permit => (w.queueCheck request renew permit).toOption.getD w
  | .stop id => w.stop id
  | .close => w.close
  | .drain => w.spawn (.drain .waiting)
  | .loseMaintenance => { w with maintenanceLost := true }
  | .beginPass ends => w.beginPass ends
  | .pass permit => w.pass permit
  | .task id input => w.stepTask digest id input
  | .factory id ok =>
    match w.tasks.find id with
    | some (.resource handle .running phase) => w.become id (.resource handle (.finished ok) phase)
    | _ => w
  | .others move =>
    if owned w.owner move.action then w else { w with db := Playback.next digest w.db move }
  | .wait time =>
    { w with db := { w.db with store := { w.db.store with clock := w.db.store.clock + time } } }

def run (w : World) (moves : List Move) : World := moves.foldl (next digest) w

end

end Duskcue.AdmissionOwner
