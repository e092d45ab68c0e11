import Mathlib.Algebra.Order.Ring.Nat

/-! The scheduled tasks. Each call of `execute_task`, with what it spawns, is a job that goes on
from statement to statement, and so is each call of `cancel_task`; the statements of all of
them interleave. Times are in microseconds of one clock. -/
namespace Duskcue.Tasks

/-- The states that the column `scheduled_tasks.state` may have. -/
inductive TaskState where
  | idle | queued | running | completed | failed | cancelled
  deriving DecidableEq

inductive RunState where
  | running | completed | failed | cancelled
  deriving DecidableEq

inductive RunResult where
  | success | failure | timeout | cancelled
  deriving DecidableEq

/-- `trigger_type`. -/
inductive Trigger where
  | scheduled | manual
  deriving DecidableEq

/-- The columns of a task that no statement changes; `executor` is whether one is registered
for the task's type. -/
structure Plan where
  cronExpression : Option String
  intervalSeconds : Option Int
  timeoutSeconds : Int
  maxRetries : Int
  retryDelaySeconds : Int
  executor : Bool

/-- The columns of `scheduled_tasks` that change. -/
structure TaskRow where
  isEnabled : Bool
  state : TaskState
  consecutiveFailures : Int
  lastRunAt : Option Int
  lastRunResult : Option RunResult
  lastError : Option String
  nextRunAt : Option Int

/-- A row of `scheduled_task_runs`; its id is its place. -/
structure Run where
  triggerType : Trigger
  state : RunState
  startedAt : Int
  completedAt : Option Int
  result : Option RunResult
  errorMessage : Option String
  deriving DecidableEq

/-- How a handler's task came to its end; `panicked` is the error of its join handle. -/
inductive TaskRunOutcome where
  | success
  | failure (message : String)
  | cancelled
  | timeout
  | panicked (error : String)
  deriving DecidableEq

/-- Where a job stands: what is done, with what the next statement needs. -/
inductive Phase where
  | ready
  | claimed
  | unrecorded
  | created (run : Nat)
  | running (run : Nat)
  | ended (run : Nat) (outcome : TaskRunOutcome) (now : Int)
  | settled (run : Nat) (outcome : TaskRunOutcome)
  | recorded (run : Nat)
  | closed (run : Option Nat)
  deriving DecidableEq

/-- A call of `execute_task`, with the row it was given. The due time of the row that it
claimed is kept for the statements alone. -/
structure Job where
  trigger : Trigger
  row : TaskRow
  due : Option Int
  phase : Phase

/-- Where a call of `cancel_task` stands. -/
inductive Cancelling where
  | seen | signalled | recorded | closed
  deriving DecidableEq

/-- A task: its rows, its entry of `active_tasks`, the tokens that are cancelled (a token is
named by its run) and the calls under way. The results of the runs, latest first, are kept for
the statements alone. -/
structure Task where
  plan : Plan
  row : TaskRow
  runs : List Run
  active : Option Nat
  cancelled : List Nat
  jobs : List Job
  cancels : List Cancelling
  results : List RunResult

def second : Int := 1000000

def cancelledByAdministrator : String := "Cancelled by administrator"

/-- The result that is recorded for an outcome. -/
def TaskRunOutcome.result : TaskRunOutcome → RunResult
  | .success => .success
  | .failure _ | .panicked _ => .failure
  | .cancelled => .cancelled
  | .timeout => .timeout

/-- The error that is recorded for an outcome. -/
def TaskRunOutcome.error (plan : Plan) : TaskRunOutcome → Option String
  | .success => none
  | .failure message => some message
  | .panicked error => some ("Task panicked: " ++ error)
  | .cancelled => some cancelledByAdministrator
  | .timeout => some ("Task timed out after " ++ toString (max plan.timeoutSeconds 1) ++ " seconds")

/-- What makes a row due in `fetch_due_tasks`. -/
def TaskRow.due (row : TaskRow) (now : Int) : Bool :=
  row.isEnabled && row.state ≠ .running && row.nextRunAt.any (· ≤ now)

section Outcomes
variable (nextOccurrence : String → Int → Option Int)

/-- `compute_next_run`; `nextOccurrence` reads a cron expression and looks for its next time. -/
def computeNextRun (plan : Plan) (start : Int) : Int :=
  match plan.cronExpression.bind (nextOccurrence · start) with
  | some next => next
  | none =>
    match plan.intervalSeconds with
    | some secs => start + secs * second
    | none => start + 3600 * second

/-- The update of `on_task_success`. -/
def onTaskSuccess (plan : Plan) (started clock : Int) (row : TaskRow) : TaskRow :=
  if row.state = .running then
    { row with
      state := .idle, consecutiveFailures := 0, lastRunAt := some clock, lastRunResult := some .success,
      lastError := none, nextRunAt := some (computeNextRun nextOccurrence plan started) }
  else row

/-- The update of `on_task_failure`. -/
def onTaskFailure (plan : Plan) (failures : Int) (result : RunResult) (error : Option String) (started clock : Int)
    (row : TaskRow) : TaskRow :=
  let newFailures := (failures + 1).bmod (2 ^ 32)
  if row.state = .running then
    if plan.maxRetries ≤ newFailures then
      { row with
        state := .idle, isEnabled := false, consecutiveFailures := newFailures, lastRunAt := some clock,
        lastRunResult := some result, lastError := error, nextRunAt := none }
    else
      { row with
        state := .idle, consecutiveFailures := newFailures, lastRunAt := some clock,
        lastRunResult := some result, lastError := error,
        nextRunAt := some (started + plan.retryDelaySeconds * second) }
  else row

/-- The update of `on_task_cancelled`. -/
def onTaskCancelled (clock : Int) (row : TaskRow) : TaskRow :=
  if row.state = .running then
    { row with
      state := .idle, lastRunAt := some clock, lastRunResult := some .cancelled,
      lastError := some cancelledByAdministrator }
  else row

/-- The update of the row after a run, from the time its outcome was seen. -/
def settleRow (plan : Plan) (failures : Int) (outcome : TaskRunOutcome) (started clock : Int) (row : TaskRow) :
    TaskRow :=
  match outcome with
  | .success => onTaskSuccess nextOccurrence plan started clock row
  | .cancelled => onTaskCancelled clock row
  | outcome => onTaskFailure plan failures outcome.result (outcome.error plan) started clock row

/-- `complete_run`. -/
def completeRun (plan : Plan) (outcome : TaskRunOutcome) (clock : Int) (run : Run) : Run :=
  if run.state = .running then
    { run with
      state := match outcome.result with
        | .success => .completed
        | .cancelled => .cancelled
        | _ => .failed
      completedAt := some clock, result := some outcome.result, errorMessage := outcome.error plan }
  else run

/-- What `cancel_task` makes of a run that is recorded as running. -/
def cancelRun (clock : Int) (run : Run) : Run :=
  if run.state = .running then
    { run with
      state := .cancelled, completedAt := some clock, result := some .cancelled,
      errorMessage := some cancelledByAdministrator }
  else run

/-- What `cancel_task` makes of the row. -/
def cancelRow (clock : Int) (row : TaskRow) : TaskRow :=
  { row with
    state := .idle, lastRunAt := some clock, lastRunResult := some .cancelled,
    lastError := some cancelledByAdministrator }

/-- `reset_claim_after_start_failure`. -/
def resetClaim (row : TaskRow) : TaskRow :=
  if row.state = .running then
    { row with state := .idle, lastError := some "Failed to create scheduled task run record" }
  else row

/-! ## Steps -/

inductive Action where
  /-- The select of `trigger_task`. -/
  | trigger
  /-- The next statement of a job. -/
  | advance (job : Nat)
  /-- The insert of a job's run fails. -/
  | refuse (job : Nat)
  /-- The handler of a job is over, and the job reads the clock. -/
  | finish (job : Nat) (outcome : TaskRunOutcome)
  /-- The select of `cancel_task`. -/
  | cancel
  /-- The next statement of a cancellation. -/
  | advanceCancel (cancel : Nat)

/-- A call of `execute_task` with a row that was read before. -/
def Task.offer (task : Task) (trigger : Trigger) (row : TaskRow) : Task :=
  { task with jobs := task.jobs ++ [⟨trigger, row, none, .ready⟩] }

def Task.setPhase (task : Task) (index : Nat) (phase : Phase) : Task :=
  { task with jobs := task.jobs.modify index fun job => { job with phase } }

/-- `claim_task`. -/
def Task.claim (task : Task) (index : Nat) : Task :=
  { task with
    row := { task.row with state := .running }
    jobs := task.jobs.modify index fun job => { job with due := task.row.nextRunAt, phase := .claimed } }

/-- `create_run`. -/
def Task.createRun (task : Task) (index : Nat) (triggerType : Trigger) (clock : Int) : Task :=
  { task.setPhase index (.created task.runs.length) with
    runs := task.runs ++ [⟨triggerType, .running, clock, none, none, none⟩] }

/-- The token is entered and the handler is spawned. -/
def Task.spawn (task : Task) (index run : Nat) : Task :=
  { task.setPhase index (.running run) with active := some run }

/-- The update of the row after a run. -/
def Task.settle (task : Task) (index : Nat) (failures : Int) (run : Nat) (outcome : TaskRunOutcome)
    (started clock : Int) : Task :=
  { task.setPhase index (.settled run outcome) with
    row := settleRow nextOccurrence task.plan failures outcome started clock task.row
    results := outcome.result :: task.results }

/-- `complete_run`. -/
def Task.complete (task : Task) (index run : Nat) (outcome : TaskRunOutcome) (clock : Int) : Task :=
  { task.setPhase index (.recorded run) with
    runs := task.runs.modify run (completeRun task.plan outcome clock) }

/-- The entry of `active_tasks` is removed by the task's id, whoever's token it holds. -/
def Task.release (task : Task) (index run : Nat) : Task :=
  { task.setPhase index (.closed (some run)) with active := none }

/-- The next statement of a job. -/
def Task.advance (clock : Int) (task : Task) (index : Nat) (job : Job) : Option Task :=
  match job.phase with
  | .ready =>
    if task.plan.executor = false ∨ task.row.state = .running then some (task.setPhase index (.closed none))
    else some (task.claim index)
  | .claimed => some (task.createRun index job.trigger clock)
  | .unrecorded => some { task.setPhase index (.closed none) with row := resetClaim task.row }
  | .created run => some (task.spawn index run)
  | .running _ => none
  | .ended run outcome started => some (task.settle nextOccurrence index job.row.consecutiveFailures run outcome started clock)
  | .settled run outcome => some (task.complete index run outcome clock)
  | .recorded run => some (task.release index run)
  | .closed _ => none

/-- The next statement of a cancellation. -/
def Task.advanceCancel (clock : Int) (task : Task) (index : Nat) : Cancelling → Option Task
  | .seen =>
    some { task with
      active := none
      cancelled := task.active.toList ++ task.cancelled
      cancels := task.cancels.set index .signalled }
  | .signalled =>
    some { task with runs := task.runs.map (cancelRun clock), cancels := task.cancels.set index .recorded }
  | .recorded => some { task with row := cancelRow clock task.row, cancels := task.cancels.set index .closed }
  | .closed => none

def Task.step (clock : Int) (task : Task) : Action → Option Task
  | .trigger => if task.row.state = .running then none else some (task.offer .manual task.row)
  | .advance index => task.jobs[index]?.bind (task.advance nextOccurrence clock index)
  | .refuse index =>
    match task.jobs[index]? with
    | some ⟨_, _, _, .claimed⟩ => some (task.setPhase index .unrecorded)
    | _ => none
  | .finish index outcome =>
    match task.jobs[index]? with
    | some ⟨_, _, _, .running run⟩ =>
      if outcome = .cancelled ∧ run ∉ task.cancelled then none
      else some (task.setPhase index (.ended run outcome clock))
    | _ => none
  | .cancel => if task.row.state = .running then some { task with cancels := task.cancels ++ [.seen] } else none
  | .advanceCancel index => task.cancels[index]?.bind (task.advanceCancel clock index)

/-- What a step of a task is. -/
inductive Change (clock : Int) (task : Task) : Action → Task → Prop
  | offered (idle : task.row.state ≠ .running) : Change clock task .trigger (task.offer .manual task.row)
  | dropped (found : task.jobs[index]? = some job) (phase : job.phase = .ready)
    (refused : task.plan.executor = false ∨ task.row.state = .running) :
    Change clock task (.advance index) (task.setPhase index (.closed none))
  | claimed {index : Nat} {job : Job} (found : task.jobs[index]? = some job) (phase : job.phase = .ready)
    (executor : task.plan.executor = true) (idle : task.row.state ≠ .running) :
    Change clock task (.advance index) (task.claim index)
  | created (found : task.jobs[index]? = some job) (phase : job.phase = .claimed) :
    Change clock task (.advance index) (task.createRun index job.trigger clock)
  | reset (found : task.jobs[index]? = some job) (phase : job.phase = .unrecorded) :
    Change clock task (.advance index) { task.setPhase index (.closed none) with row := resetClaim task.row }
  | spawned (found : task.jobs[index]? = some job) (phase : job.phase = .created run) :
    Change clock task (.advance index) (task.spawn index run)
  | settled (found : task.jobs[index]? = some job) (phase : job.phase = .ended run outcome started) :
    Change clock task (.advance index) (task.settle nextOccurrence index job.row.consecutiveFailures run outcome started clock)
  | completed (found : task.jobs[index]? = some job)
    (phase : job.phase = .settled run outcome) :
    Change clock task (.advance index) (task.complete index run outcome clock)
  | released {index run : Nat} {job : Job} (found : task.jobs[index]? = some job) (phase : job.phase = .recorded run) :
    Change clock task (.advance index) (task.release index run)
  | refused (found : task.jobs[index]? = some job) (phase : job.phase = .claimed) :
    Change clock task (.refuse index) (task.setPhase index .unrecorded)
  | finished (found : task.jobs[index]? = some job)
    (phase : job.phase = .running run) (signalled : outcome = .cancelled → run ∈ task.cancelled) :
    Change clock task (.finish index outcome) (task.setPhase index (.ended run outcome clock))
  | seen (running : task.row.state = .running) :
    Change clock task .cancel { task with cancels := task.cancels ++ [.seen] }
  | signalled (found : task.cancels[index]? = some .seen) :
    Change clock task (.advanceCancel index) { task with
      active := none, cancelled := task.active.toList ++ task.cancelled, cancels := task.cancels.set index .signalled }
  | runsCancelled (found : task.cancels[index]? = some .signalled) :
    Change clock task (.advanceCancel index)
      { task with runs := task.runs.map (cancelRun clock), cancels := task.cancels.set index .recorded }
  | rowCancelled (found : task.cancels[index]? = some .recorded) :
    Change clock task (.advanceCancel index)
      { task with row := cancelRow clock task.row, cancels := task.cancels.set index .closed }

variable {nextOccurrence}

theorem change_of_advance {task next : Task}
    (found : task.jobs[index]? = some job) (moved : task.advance nextOccurrence clock index job = some next) :
    Change nextOccurrence clock task (.advance index) next := by
  unfold Task.advance at moved
  split at moved
  case h_1 phase =>
    split at moved
    · rename_i refused
      exact Option.some.inj moved ▸ .dropped found phase refused
    · rename_i free
      have executor : task.plan.executor = true := by simpa using (not_or.mp free).1
      exact Option.some.inj moved ▸ .claimed found phase executor (not_or.mp free).2
  case h_2 phase => exact Option.some.inj moved ▸ .created found phase
  case h_3 phase => exact Option.some.inj moved ▸ .reset found phase
  case h_4 run phase => exact Option.some.inj moved ▸ .spawned found phase
  case h_5 => cases moved
  case h_6 run outcome started phase => exact Option.some.inj moved ▸ .settled found phase
  case h_7 run outcome phase => exact Option.some.inj moved ▸ .completed found phase
  case h_8 run phase => exact Option.some.inj moved ▸ .released found phase
  case h_9 => cases moved

theorem change_of_step {task next : Task}
    (moved : task.step nextOccurrence clock action = some next) : Change nextOccurrence clock task action next := by
  cases action with
  | trigger =>
    simp only [Task.step] at moved
    split at moved
    · cases moved
    · rename_i idle
      exact Option.some.inj moved ▸ .offered idle
  | advance =>
    obtain ⟨job, found, moved⟩ := Option.bind_eq_some_iff.mp moved
    exact change_of_advance found moved
  | refuse =>
    simp only [Task.step] at moved
    split at moved
    · rename_i found
      exact Option.some.inj moved ▸ .refused found rfl
    · cases moved
  | finish index outcome =>
    simp only [Task.step] at moved
    split at moved
    · rename_i found
      split at moved
      · cases moved
      · rename_i signalled
        have known : outcome = .cancelled → _ ∈ task.cancelled := fun same =>
          Classical.byContradiction fun absent => signalled ⟨same, absent⟩
        exact Option.some.inj moved ▸ .finished found rfl known
    · cases moved
  | cancel =>
    simp only [Task.step] at moved
    split at moved
    · rename_i running
      exact Option.some.inj moved ▸ .seen running
    · cases moved
  | advanceCancel =>
    obtain ⟨cancel, found, moved⟩ := Option.bind_eq_some_iff.mp moved
    cases cancel with
    | seen => exact Option.some.inj moved ▸ .signalled found
    | signalled => exact Option.some.inj moved ▸ .runsCancelled found
    | recorded => exact Option.some.inj moved ▸ .rowCancelled found
    | closed => cases moved

variable (nextOccurrence)

/-- The scheduler: its tasks by their ids, and the due tasks of the tick that it has not come to. -/
structure Scheduler (Id : Type) where
  clock : Int
  ids : List Id
  tasks : Id → Task
  queue : List (Id × TaskRow)

inductive Event (Id : Type) where
  | wait (elapsed : Nat)
  /-- `fetch_due_tasks`. -/
  | tick
  /-- The next due task is handed to `execute_task`. -/
  | next
  | act (id : Id) (action : Action)

variable {Id : Type} [DecidableEq Id]

/-- `fetch_due_tasks`: the due rows, the earliest first. -/
def fetchDueTasks (scheduler : Scheduler Id) : List (Id × TaskRow) :=
  let rows := scheduler.ids.map fun id => (id, (scheduler.tasks id).row)
  (rows.filter fun row => row.2.due scheduler.clock).mergeSort fun a b => a.2.nextRunAt.getD 0 ≤ b.2.nextRunAt.getD 0

def Scheduler.step (scheduler : Scheduler Id) : Event Id → Option (Scheduler Id)
  | .wait elapsed => some { scheduler with clock := scheduler.clock + elapsed }
  | .tick => if scheduler.queue = [] then some { scheduler with queue := fetchDueTasks scheduler } else none
  | .next =>
    match scheduler.queue with
    | [] => none
    | (id, row) :: queue =>
      some { scheduler with
        queue, tasks := Function.update scheduler.tasks id ((scheduler.tasks id).offer .scheduled row) }
  | .act id action =>
    ((scheduler.tasks id).step nextOccurrence scheduler.clock action).map fun task =>
      { scheduler with tasks := Function.update scheduler.tasks id task }

end Outcomes

end Duskcue.Tasks
