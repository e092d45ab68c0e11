import Duskcue.TaskExclusion

/-! When the scheduled runs start, and the count of failures. A run moves the next time past its
own start, unless it is cancelled; and the count is the one of the results, as long as each
run ends with the row that it was given. -/
namespace Duskcue.Tasks
open PartialRuns

variable {i run : Nat} {started : Int}

/-- The failed and timed-out runs since the last success; the latest result comes first. -/
def failuresSince : List RunResult → Nat
  | [] => 0
  | .success :: _ => 0
  | .cancelled :: results => failuresSince results
  | _ :: results => failuresSince results + 1

/-- Some failure has brought the count to the limit. -/
def reachedLimit (maxRetries : Int) : List RunResult → Bool
  | [] => false
  | .success :: results | .cancelled :: results => reachedLimit maxRetries results
  | _ :: results => reachedLimit maxRetries results || maxRetries ≤ failuresSince results + 1

/-- The run of a job whose execution is over. -/
def Phase.past : Phase → Option Nat
  | .settled run _ | .recorded run => some run
  | .closed run => run
  | _ => none

/-- The run of a job. -/
def Phase.place : Phase → Option Nat
  | .created run | .running run | .ended run _ _ | .settled run _ | .recorded run => some run
  | .closed run => run
  | _ => none

/-- The job has used its due time. -/
def Phase.spent (phase : Phase) : Bool := phase = .claimed || phase.place.isSome

/-- The task is disabled, or due only after a time. -/
def TaskRow.After (row : TaskRow) (start : Int) : Prop :=
  row.isEnabled = false ∨ ∃ next, row.nextRunAt = some next ∧ start < next

/-- What the claim says of a task: its count, when it is disabled, that a scheduled run that is
over leaves it due only later, and that no due time starts two. -/
structure Punctual (enabledFirst : Bool) (task : Task) : Prop where
  failures : task.row.consecutiveFailures = failuresSince task.results
  disabled : task.row.isEnabled = (enabledFirst && !reachedLimit task.plan.maxRetries task.results)
  later : ∀ job ∈ task.jobs, job.trigger = .scheduled → ∀ r run, job.phase.past = some r →
    task.runs[r]? = some run → task.row.After run.startedAt
  once : ∀ (i j : Nat) (a b : Job), task.jobs[i]? = some a → task.jobs[j]? = some b →
    a.trigger = .scheduled → b.trigger = .scheduled → a.phase.spent → b.phase.spent → a.due = b.due → i = j

/-- A scheduled run starts when the task is enabled and due. -/
def StartsDue (clock : Int) (task : Task) (action : Action) : Prop :=
  ∀ index job, action = .advance index → task.jobs[index]? = some job → job.trigger = .scheduled →
    task.Claims index → task.row.isEnabled = true ∧ ∃ next, task.row.nextRunAt = some next ∧ next ≤ clock

/-- What the update of the row after a run finds: a row that is running, the count that the
job was given, and a retry after all starts; a run whose update leaves the row's times alone
was not scheduled, or the times are past it. -/
def Task.Settles (task : Task) (job : Job) (run : Nat) (outcome : TaskRunOutcome) (started : Int) : Prop :=
  let aside := job.trigger = .scheduled → ∀ record, task.runs[run]? = some record → task.row.After record.startedAt
  match outcome with
  | .success => task.row.state = .running ∨ task.row.consecutiveFailures = 0 ∧ aside
  | .cancelled => aside
  | _ =>
    task.row.state = .running ∧ job.row.consecutiveFailures = task.row.consecutiveFailures ∧
    task.row.consecutiveFailures < 2 ^ 31 - 1 ∧
    (task.plan.maxRetries ≤ task.row.consecutiveFailures + 1 ∨ task.row.isEnabled = false ∨
      ∀ record ∈ task.runs, record.triggerType = .scheduled →
        record.startedAt < started + task.plan.retryDelaySeconds * second)

/-- No execution holds the row that is claimed, a scheduled claim finds the times as they were
fetched, and each run ends as `Settles` says. -/
def Task.Steady (task : Task) : Action → Prop
  | .advance index =>
    (task.Claims index → (∀ p ∈ task.phases, ¬p.holds) ∧ ∀ job, task.jobs[index]? = some job →
      job.trigger = .scheduled →
      task.row.isEnabled = job.row.isEnabled ∧ task.row.nextRunAt = job.row.nextRunAt) ∧
    ∀ job run outcome started, task.jobs[index]? = some job → job.phase = .ended run outcome started →
      task.Settles job run outcome started
  | _ => True

section Invariant
variable {nextOccurrence : String → Int → Option Int} {enabledFirst : Bool} {clock : Int} {task next : Task}
  {action : Action} {columns : TaskRow} {stamps : List (Trigger × Int)} {job : Job}

/-- The trigger and the start of each run. -/
def Task.starts (task : Task) : List (Trigger × Int) := task.runs.map fun run => (run.triggerType, run.startedAt)

/-- What a job keeps of the times it has seen. -/
structure OnTime (clock : Int) (row : TaskRow) (starts : List (Trigger × Int)) (job : Job) : Prop where
  fetched : job.trigger = .scheduled → job.row.isEnabled = true ∧ ∃ next, job.row.nextRunAt = some next ∧ next ≤ clock
  claimed : job.phase = .claimed → job.trigger = .scheduled → ∃ due, job.due = some due ∧ due ≤ clock
  started : ∀ r, job.phase.place = some r → ∃ start, starts[r]? = some (job.trigger, start) ∧
    (job.trigger = .scheduled → (∃ due, job.due = some due ∧ due ≤ start) ∧ (job.phase.past = some r → row.After start))
  ended : ∀ r outcome seen, job.phase = .ended r outcome seen → ∀ start ∈ starts, start.2 ≤ seen

/-- No due time is used twice. -/
def Once (jobs : List Job) : Prop :=
  ∀ (i j : Nat) (a b : Job), jobs[i]? = some a → jobs[j]? = some b →
    a.trigger = .scheduled → b.trigger = .scheduled → a.phase.spent → b.phase.spent → a.due = b.due → i = j

structure Timely (enabledFirst : Bool) (clock : Int) (task : Task) : Prop where
  failures : task.row.consecutiveFailures = failuresSince task.results
  disabled : task.row.isEnabled = (enabledFirst && !reachedLimit task.plan.maxRetries task.results)
  single : AtMostOne Phase.holds task.phases
  once : Once task.jobs
  onTime : ∀ job ∈ task.jobs, OnTime clock task.row task.starts job
  before : ∀ start ∈ task.starts, start.2 ≤ clock

theorem place_of_past {p : Phase} (past : p.past = some r) : p.place = some r := by
  cases p <;> first | exact past | cases past

theorem Timely.punctual (timely : Timely enabledFirst clock task) : Punctual enabledFirst task := by
  refine ⟨timely.failures, timely.disabled, fun job member scheduled r run past there => ?_, timely.once⟩
  obtain ⟨start, known, times⟩ := (timely.onTime job member).started r (place_of_past past)
  rw [Task.starts, List.getElem?_map, there] at known
  obtain rfl : run.startedAt = start := congrArg Prod.snd (Option.some.inj known)
  exact (times scheduled).2 past

theorem after_congr {other : TaskRow} (enabled : other.isEnabled = columns.isEnabled)
    (times : other.nextRunAt = columns.nextRunAt) (after : columns.After start) : other.After start := by
  rw [TaskRow.After, enabled, times]
  exact after

theorem OnTime.wait (onTime : OnTime clock columns stamps job) (passed : clock ≤ later) :
    OnTime later columns stamps job := by
  obtain ⟨fetched, claimed, started, ended⟩ := onTime
  refine ⟨fun scheduled => ?_, fun phase scheduled => ?_, started, ended⟩
  · obtain ⟨enabled, next, known, due⟩ := fetched scheduled
    exact ⟨enabled, next, known, Int.le_trans due passed⟩
  · obtain ⟨due, known, seen⟩ := claimed phase scheduled
    exact ⟨due, known, Int.le_trans seen passed⟩

/-- The row changes, and what has come after a start still does. -/
theorem OnTime.update (onTime : OnTime clock columns stamps job) {other : TaskRow}
    (kept : ∀ r start, job.trigger = .scheduled → job.phase.past = some r → stamps[r]? = some (.scheduled, start) →
      columns.After start → other.After start) : OnTime clock other stamps job := by
  obtain ⟨fetched, claimed, started, ended⟩ := onTime
  refine ⟨fetched, claimed, fun r place => ?_, ended⟩
  obtain ⟨start, known, times⟩ := started r place
  refine ⟨start, known, fun scheduled => ⟨(times scheduled).1, fun past => ?_⟩⟩
  exact kept r start scheduled past (scheduled ▸ known) ((times scheduled).2 past)

/-- The job goes on with the run it has. -/
theorem OnTime.move (onTime : OnTime clock columns stamps job) (unclaimed : q ≠ .claimed)
    (place : ∀ r, q.place = some r → job.phase.place = some r) (past : ∀ r, q.past = some r → job.phase.past = some r)
    (ended : ∀ r outcome seen, q = .ended r outcome seen → ∀ start ∈ stamps, start.2 ≤ seen) :
    OnTime clock columns stamps { job with phase := q } := by
  refine ⟨onTime.fetched, fun same => absurd same unclaimed, fun r here => ?_, ended⟩
  obtain ⟨start, known, times⟩ := onTime.started r (place r here)
  exact ⟨start, known, fun scheduled => ⟨(times scheduled).1, fun gone => (times scheduled).2 (past r gone)⟩⟩

theorem getElem?_modify_cases {jobs : List Job} (found : jobs[i]? = some job)
    (there : (jobs.modify i f)[j]? = some other) : i = j ∧ f job = other ∨ i ≠ j ∧ jobs[j]? = some other := by
  rw [List.getElem?_modify] at there
  by_cases here : i = j
  · subst here
    simp only [found, if_true, Option.map_eq_map, Option.map_some, Option.some.injEq] at there
    exact .inl ⟨rfl, there⟩
  · simp only [here, if_false, id_map'] at there
    exact .inr ⟨here, there⟩

theorem mem_modify_cases {jobs : List Job} (found : jobs[i]? = some job)
    (member : other ∈ jobs.modify i f) : f job = other ∨ ∃ j, i ≠ j ∧ jobs[j]? = some other := by
  obtain ⟨j, there⟩ := List.mem_iff_getElem?.mp member
  exact (getElem?_modify_cases found there).imp (·.2) fun old => ⟨j, old⟩

theorem once_modify (once : Once jobs) (found : jobs[i]? = some job)
    (same : (f job).trigger = job.trigger ∧ (f job).due = job.due) (later : (f job).phase.spent → job.phase.spent) :
    Once (jobs.modify i f) := by
  have former (j : Nat) (b : Job) (there : (jobs.modify i f)[j]? = some b) (spent : b.phase.spent) :
      ∃ a, jobs[j]? = some a ∧ a.phase.spent ∧ b.trigger = a.trigger ∧ b.due = a.due := by
    obtain ⟨rfl, rfl⟩ | ⟨-, old⟩ := getElem?_modify_cases found there
    · exact ⟨job, found, later spent, same⟩
    · exact ⟨b, old, spent, rfl, rfl⟩
  intro j k a b one two scheduledOne scheduledTwo spentOne spentTwo due
  obtain ⟨a', oneOld, spentOld, triggerOne, dueOne⟩ := former j a one spentOne
  obtain ⟨b', twoOld, spentOther, triggerTwo, dueTwo⟩ := former k b two spentTwo
  exact once j k a' b' oneOld twoOld (triggerOne ▸ scheduledOne) (triggerTwo ▸ scheduledTwo) spentOld spentOther
    (dueOne ▸ dueTwo ▸ due)

/-- A statement that moves a job on and leaves the times of its task alone. -/
theorem Timely.move (timely : Timely enabledFirst clock task) {q : Phase} (found : task.jobs[i]? = some job)
    (jobs : next.jobs = (task.setPhase i q).jobs) (plan : next.plan = task.plan) (results : next.results = task.results)
    (starts : next.starts = task.starts) (enabled : next.row.isEnabled = task.row.isEnabled)
    (times : next.row.nextRunAt = task.row.nextRunAt)
    (count : next.row.consecutiveFailures = task.row.consecutiveFailures)
    (holds : q.holds → job.phase.holds) (unclaimed : q ≠ .claimed)
    (place : ∀ r, q.place = some r → job.phase.place = some r) (past : ∀ r, q.past = some r → job.phase.past = some r)
    (ended : ∀ r outcome seen, q = .ended r outcome seen → ∀ start ∈ task.starts, start.2 ≤ seen) :
    Timely enabledFirst clock next := by
  have phases : next.phases = task.phases.set i q := by rw [Task.phases, jobs]; exact phases_setPhase i q
  refine ⟨?_, ?_, ?_, ?_, ?_, ?_⟩
  · rw [count, results, timely.failures]
  · rw [enabled, plan, results, timely.disabled]
  · rw [phases]
    exact atMostOne_set timely.single (phase_found found rfl) holds
  · rw [jobs]
    refine once_modify timely.once found ⟨rfl, rfl⟩ fun spent => ?_
    simp only [Phase.spent, unclaimed, decide_false, Bool.false_or, Option.isSome_iff_exists] at spent
    obtain ⟨r, here⟩ := spent
    simp [Phase.spent, place r here]
  · intro other member
    rw [jobs] at member
    rw [starts]
    have kept (start : Int) : task.row.After start → next.row.After start := after_congr enabled times
    rcases mem_modify_cases found member with rfl | ⟨j, -, there⟩
    · have moved := (timely.onTime job (List.mem_of_getElem? found)).move unclaimed place past ended
      exact moved.update fun r start _ _ _ => kept start
    · exact (timely.onTime other (List.mem_of_getElem? there)).update fun r start _ _ _ => kept start
  · rw [starts]
    exact timely.before

theorem Timely.offer (timely : Timely enabledFirst clock task) {fetched : TaskRow}
    (seen : trigger = .scheduled → fetched.isEnabled = true ∧ ∃ next, fetched.nextRunAt = some next ∧ next ≤ clock) :
    Timely enabledFirst clock (task.offer trigger fetched) := by
  obtain ⟨failures, disabled, single, once, onTime, before⟩ := timely
  refine ⟨failures, disabled, ?_, ?_, ?_, before⟩
  · rw [phases_offer]
    exact atMostOne_append single rfl
  · have former (j : Nat) (b : Job) (there : (task.offer trigger fetched).jobs[j]? = some b) (spent : b.phase.spent) :
        task.jobs[j]? = some b := by
      by_cases old : j < task.jobs.length
      · simpa only [Task.offer, List.getElem?_append_left old] using there
      · simp only [Task.offer, List.getElem?_append_right (Nat.le_of_not_lt old)] at there
        rw [List.mem_singleton.mp (List.mem_of_getElem? there)] at spent
        cases spent
    exact fun i j a b one two scheduledOne scheduledTwo spentOne spentTwo =>
      once i j a b (former i a one spentOne) (former j b two spentTwo) scheduledOne scheduledTwo spentOne spentTwo
  · intro job member
    rcases List.mem_append.mp member with old | fresh
    · exact onTime job old
    · rw [List.mem_singleton.mp fresh]
      refine ⟨seen, ?_, ?_, ?_⟩
      · rintro ⟨⟩
      · rintro r ⟨⟩
      · rintro r outcome seen ⟨⟩

theorem past_of_spent {p : Phase} (spent : p.spent) (free : ¬p.holds) : ∃ r, p.past = some r := by
  cases p with
  | settled run | recorded run => exact ⟨run, rfl⟩
  | closed => simpa [Phase.spent, Phase.place, Phase.past, Option.isSome_iff_exists] using spent
  | ready | unrecorded => cases spent
  | claimed | created | running | ended => exact absurd rfl free

/-- The due times that were used before lie before the next one. -/
theorem Timely.fresh (timely : Timely enabledFirst clock task) (free : ∀ p ∈ task.phases, ¬p.holds)
    (enabled : task.row.isEnabled = true) (member : other ∈ task.jobs) (scheduled : other.trigger = .scheduled)
    (spent : other.phase.spent) : other.due ≠ task.row.nextRunAt := by
  obtain ⟨r, past⟩ := past_of_spent spent (free _ (List.mem_map_of_mem member))
  obtain ⟨start, -, times⟩ := (timely.onTime other member).started r (place_of_past past)
  obtain ⟨⟨due, known, early⟩, after⟩ := times scheduled
  rcases after past with off | ⟨next, due', later⟩
  · rw [enabled] at off
    cases off
  · rw [known, due']
    intro same
    have := Option.some.inj same
    omega

theorem Timely.claim (timely : Timely enabledFirst clock task) (found : task.jobs[i]? = some job)
    (free : ∀ p ∈ task.phases, ¬p.holds) (current : job.trigger = .scheduled →
      task.row.isEnabled = job.row.isEnabled ∧ task.row.nextRunAt = job.row.nextRunAt) :
    Timely enabledFirst clock (task.claim i) := by
  have member := List.mem_of_getElem? found
  have unused (other : Job) (there : other ∈ task.jobs) (scheduled : other.trigger = .scheduled)
      (mine : job.trigger = .scheduled) (spent : other.phase.spent) : other.due ≠ task.row.nextRunAt :=
    timely.fresh free ((current mine).1.trans ((timely.onTime job member).fetched mine).1) there scheduled spent
  refine ⟨timely.failures, timely.disabled, ?_, ?_, ?_, timely.before⟩
  · rw [phases_claim]
    exact atMostOne_first free
  · intro j k a b one two scheduledOne scheduledTwo spentOne spentTwo due
    obtain ⟨rfl, rfl⟩ | ⟨-, first⟩ := getElem?_modify_cases found one <;>
      obtain ⟨rfl, rfl⟩ | ⟨-, second⟩ := getElem?_modify_cases found two
    · rfl
    · exact absurd due.symm (unused b (List.mem_of_getElem? second) scheduledTwo scheduledOne spentTwo)
    · exact absurd due (unused a (List.mem_of_getElem? first) scheduledOne scheduledTwo spentOne)
    · exact timely.once j k a b first second scheduledOne scheduledTwo spentOne spentTwo due
  · intro other there
    rcases mem_modify_cases found there with rfl | ⟨j, -, place⟩
    · obtain ⟨fetched, -, -, -⟩ := timely.onTime job member
      refine ⟨fetched, fun _ scheduled => ?_, ?_, ?_⟩
      · obtain ⟨-, next, known, due⟩ := fetched scheduled
        exact ⟨next, (current scheduled).2.trans known, due⟩
      · rintro r ⟨⟩
      · rintro r outcome seen ⟨⟩
    · exact (timely.onTime other (List.mem_of_getElem? place)).update fun _ _ _ _ _ after => after

theorem Timely.createRun (timely : Timely enabledFirst clock task) (found : task.jobs[i]? = some job)
    (claimed : job.phase = .claimed) : Timely enabledFirst clock (task.createRun i job.trigger clock) := by
  have starts : (task.createRun i job.trigger clock).starts = task.starts ++ [(job.trigger, clock)] := by
    simp [Task.createRun, Task.starts]
  have fresh : task.starts.length = task.runs.length := List.length_map _
  refine ⟨timely.failures, timely.disabled, ?_, ?_, ?_, ?_⟩
  · show AtMostOne Phase.holds (task.setPhase i _).phases
    rw [phases_setPhase]
    exact atMostOne_set timely.single (phase_found found claimed) fun _ => rfl
  · exact once_modify timely.once found ⟨rfl, rfl⟩ fun _ => by rw [claimed]; rfl
  · intro other there
    rw [starts]
    rcases mem_modify_cases found there with rfl | ⟨j, elsewhere, place⟩
    · obtain ⟨fetched, seen, -, -⟩ := timely.onTime job (List.mem_of_getElem? found)
      refine ⟨fetched, ?_, ?_, ?_⟩
      · rintro ⟨⟩
      · rintro r ⟨⟩
        refine ⟨clock, ?_, fun scheduled => ⟨seen claimed scheduled, ?_⟩⟩
        · rw [← fresh, List.getElem?_append_right (Nat.le_refl _)]
          simp
        · rintro ⟨⟩
      · rintro r outcome seen ⟨⟩
    · obtain ⟨fetched, seen, started, _⟩ := timely.onTime other (List.mem_of_getElem? place)
      refine ⟨fetched, seen, fun r mine => ?_, fun r outcome seen phase => ?_⟩
      · obtain ⟨start, known, times⟩ := started r mine
        exact ⟨start, (List.getElem?_append_left (List.getElem?_eq_some_iff.mp known).1).trans known, times⟩
      · have free := atMostOne_others timely.single (phase_found found claimed) rfl (phase_found place phase) elsewhere
        exact absurd rfl free
  · rw [starts]
    intro start member
    rcases List.mem_append.mp member with old | new
    · exact timely.before start old
    · exact List.mem_singleton.mp new ▸ Int.le_refl clock

theorem bmod_small {n : Int} (low : 0 ≤ n) (high : n < 2 ^ 31 - 1) : (n + 1).bmod (2 ^ 32) = n + 1 := by
  rw [Int.bmod_def]
  omega

/-- The times that a task is promised to be run at: an interval that is positive, or a cron
expression that always has a next time. -/
def Plan.Timed (nextOccurrence : String → Int → Option Int) (plan : Plan) : Prop :=
  (∃ secs, plan.intervalSeconds = some secs ∧ 0 < secs) ∨
  ∃ expression, plan.cronExpression = some expression ∧ ∀ start, (nextOccurrence expression start).isSome

/-- What the update after a run makes of the row of a task. -/
structure Settled (enabledFirst : Bool) (task : Task) (job : Job) (run : Nat) (result : RunResult) (row : TaskRow) :
    Prop where
  failures : row.consecutiveFailures = failuresSince (result :: task.results)
  disabled : row.isEnabled = (enabledFirst && !reachedLimit task.plan.maxRetries (result :: task.results))
  kept : ∀ start, (Trigger.scheduled, start) ∈ task.starts → task.row.After start → row.After start
  own : job.trigger = .scheduled → ∀ record, task.runs[run]? = some record → record.triggerType = .scheduled →
    row.After record.startedAt

theorem start_mem (there : task.runs[run]? = some record)
    (scheduled : record.triggerType = .scheduled) : (Trigger.scheduled, record.startedAt) ∈ task.starts :=
  List.mem_map.mpr ⟨record, List.mem_of_getElem? there, by rw [scheduled]⟩

theorem settled_cancelled (timely : Timely enabledFirst clock task)
    (settles : task.Settles job run .cancelled started) :
    Settled enabledFirst task job run .cancelled (onTaskCancelled clock task.row) := by
  have failures := timely.failures
  have disabled := timely.disabled
  unfold onTaskCancelled
  split <;>
    exact ⟨failures, disabled, fun _ _ after => after, fun scheduled record there _ => settles scheduled record there⟩

theorem settled_failure {result : RunResult}
    (bad : result = .failure ∨ result = .timeout) (timely : Timely enabledFirst clock task)
    (running : task.row.state = .running) (current : job.row.consecutiveFailures = task.row.consecutiveFailures)
    (small : task.row.consecutiveFailures < 2 ^ 31 - 1)
    (retry : task.plan.maxRetries ≤ task.row.consecutiveFailures + 1 ∨ task.row.isEnabled = false ∨
      ∀ record ∈ task.runs, record.triggerType = .scheduled →
        record.startedAt < started + task.plan.retryDelaySeconds * second) :
    Settled enabledFirst task job run result
      (onTaskFailure task.plan job.row.consecutiveFailures result error started clock task.row) := by
  have count := timely.failures
  have disabled := timely.disabled
  have exact : (job.row.consecutiveFailures + 1).bmod (2 ^ 32) = (failuresSince task.results : Int) + 1 := by
    rw [current, bmod_small (by omega) small, count]
  have one : failuresSince (result :: task.results) = failuresSince task.results + 1 := by
    rcases bad with rfl | rfl <;> rfl
  have limit : reachedLimit task.plan.maxRetries (result :: task.results) =
      (reachedLimit task.plan.maxRetries task.results ||
        decide (task.plan.maxRetries ≤ failuresSince task.results + 1)) := by
    rcases bad with rfl | rfl <;> rfl
  simp only [onTaskFailure, running, if_true, exact]
  split
  · rename_i reached
    refine ⟨?_, ?_, fun _ _ _ => .inl rfl, fun _ _ _ _ => .inl rfl⟩
    · rw [one]
      rfl
    · rw [limit]
      simp [reached]
  · rename_i below
    have after (start : Int) (member : (Trigger.scheduled, start) ∈ task.starts) :
        task.row.isEnabled = false ∨ start < started + task.plan.retryDelaySeconds * second := by
      obtain ⟨record, there, same⟩ := List.mem_map.mp member
      obtain ⟨scheduled, rfl⟩ := Prod.mk.inj same
      rcases retry with reached | off | past
      · exact absurd (count ▸ reached) below
      · exact .inl off
      · exact .inr (past record there scheduled)
    refine ⟨?_, ?_, ?_, ?_⟩
    · rw [one]
      rfl
    · rw [limit, disabled]
      simp [below]
    · exact fun start member _ => (after start member).imp_right fun less => ⟨_, rfl, less⟩
    · exact fun _ record there scheduled =>
        (after _ (start_mem there scheduled)).imp_right fun less => ⟨_, rfl, less⟩

theorem Timely.wait (timely : Timely enabledFirst clock task) (passed : clock ≤ elapsed) :
    Timely enabledFirst elapsed task :=
  ⟨timely.failures, timely.disabled, timely.single, timely.once,
    fun job member => (timely.onTime job member).wait passed,
    fun start member => Int.le_trans (timely.before start member) passed⟩

theorem completeRun_start (plan : Plan) (outcome : TaskRunOutcome) (run : Run) :
    ((completeRun plan outcome clock run).triggerType, (completeRun plan outcome clock run).startedAt) =
      (run.triggerType, run.startedAt) := by
  unfold completeRun
  split <;> rfl

theorem cancelRun_start (run : Run) :
    ((cancelRun clock run).triggerType, (cancelRun clock run).startedAt) = (run.triggerType, run.startedAt) := by
  unfold cancelRun
  split <;> rfl

theorem starts_complete (index run : Nat) (outcome : TaskRunOutcome) :
    (task.complete index run outcome clock).starts = task.starts := by
  simp only [Task.starts, Task.complete]
  apply List.ext_getElem?
  intro j
  rw [List.getElem?_map, List.getElem?_modify, List.getElem?_map]
  by_cases here : run = j
  · simp only [here, if_true, Option.map_eq_map, Option.map_map, Function.comp_def, completeRun_start]
  · simp only [here, if_false, id_map']

theorem Timely.cancel (timely : Timely enabledFirst clock task) {runs : List Run} {cancelled : List Nat}
    (starts : runs.map (fun run => (run.triggerType, run.startedAt)) = task.starts) :
    Timely enabledFirst clock { task with runs, active, cancelled, cancels } := by
  have same : Task.starts { task with runs, active, cancelled, cancels } = task.starts := starts
  exact ⟨timely.failures, timely.disabled, timely.single, timely.once, same ▸ timely.onTime, same ▸ timely.before⟩

theorem plan_change (change : Change nextOccurrence clock task action next) : next.plan = task.plan := by
  cases change <;> rfl

/-- A claimed scheduled task is due, since it was when it was fetched. -/
theorem startsDue_of_steady (timely : Timely enabledFirst clock task) (steady : task.Steady action) :
    StartsDue clock task action := by
  rintro index job rfl found scheduled claims
  obtain ⟨enabled, times⟩ := (steady.1 claims).2 job found scheduled
  obtain ⟨on, next, known, due⟩ := (timely.onTime job (List.mem_of_getElem? found)).fetched scheduled
  exact ⟨enabled.trans on, next, times.trans known, due⟩

variable (later : ∀ expression start next, nextOccurrence expression start = some next → start < next)
include later

theorem computeNextRun_later {plan : Plan} (timed : plan.Timed nextOccurrence) :
    start < computeNextRun nextOccurrence plan start := by
  unfold computeNextRun
  split
  · rename_i next found
    obtain ⟨expression, -, found⟩ := Option.bind_eq_some_iff.mp found
    exact later expression start next found
  · rename_i missed
    split
    · rename_i secs interval
      rcases timed with ⟨other, known, positive⟩ | ⟨expression, known, always⟩
      · rw [interval] at known
        cases known
        unfold second
        omega
      · rw [known] at missed
        have found := always start
        rw [show nextOccurrence expression start = none from missed] at found
        cases found
    · unfold second
      omega

variable (timed : task.plan.Timed nextOccurrence)
include timed

theorem settled_success (timely : Timely enabledFirst clock task) (seen : ∀ start ∈ task.starts, start.2 ≤ started)
    (settles : task.Settles job run .success started) :
    Settled enabledFirst task job run .success (onTaskSuccess nextOccurrence task.plan started clock task.row) := by
  have disabled := timely.disabled
  unfold onTaskSuccess
  split
  · have after : ∀ start, (Trigger.scheduled, start) ∈ task.starts →
        ∃ next, some (computeNextRun nextOccurrence task.plan started) = some next ∧ start < next :=
      fun start member => ⟨_, rfl, Int.lt_of_le_of_lt (seen _ member) (computeNextRun_later later timed)⟩
    exact ⟨rfl, disabled, fun start member _ => .inr (after start member),
      fun _ record there scheduled => .inr (after _ (start_mem there scheduled))⟩
  · rename_i idle
    obtain ⟨clean, aside⟩ := settles.resolve_left idle
    exact ⟨clean, disabled, fun _ _ after => after, fun scheduled record there _ => aside scheduled record there⟩

theorem settled_row (timely : Timely enabledFirst clock task) (seen : ∀ start ∈ task.starts, start.2 ≤ started)
    (settles : task.Settles job run outcome started) :
    Settled enabledFirst task job run outcome.result
      (settleRow nextOccurrence task.plan job.row.consecutiveFailures outcome started clock task.row) := by
  cases outcome with
  | success => exact settled_success later timed timely seen settles
  | cancelled => exact settled_cancelled timely settles
  | failure | panicked =>
    obtain ⟨running, current, small, retry⟩ := settles
    exact settled_failure (.inl rfl) timely running current small retry
  | timeout =>
    obtain ⟨running, current, small, retry⟩ := settles
    exact settled_failure (.inr rfl) timely running current small retry

theorem Timely.settle (timely : Timely enabledFirst clock task) {outcome : TaskRunOutcome}
    (found : task.jobs[i]? = some job) (phase : job.phase = .ended run outcome started)
    (settles : task.Settles job run outcome started) :
    Timely enabledFirst clock
      (task.settle nextOccurrence i job.row.consecutiveFailures run outcome started clock) := by
  have mine := timely.onTime job (List.mem_of_getElem? found)
  obtain ⟨failures, disabled, kept, own⟩ :=
    settled_row later timed timely (mine.ended run outcome started phase) settles
  refine ⟨failures, disabled, ?_, ?_, ?_, timely.before⟩
  · show AtMostOne Phase.holds (task.setPhase i _).phases
    rw [phases_setPhase]
    exact atMostOne_set timely.single (phase_found found phase) fun _ => rfl
  · exact once_modify timely.once found ⟨rfl, rfl⟩ fun _ => by rw [phase]; rfl
  · intro other member
    rcases mem_modify_cases found member with rfl | ⟨j, -, there⟩
    · refine ⟨mine.fetched, (by rintro ⟨⟩), fun r place => ?_, (by rintro r outcome seen ⟨⟩)⟩
      cases place
      obtain ⟨start, known, times⟩ := mine.started run (by rw [phase]; rfl)
      refine ⟨start, known, fun scheduled => ⟨(times scheduled).1, fun _ => ?_⟩⟩
      have stamp := known
      rw [Task.starts, List.getElem?_map] at stamp
      obtain ⟨record, there, same⟩ := Option.map_eq_some_iff.mp stamp
      obtain ⟨trigger, rfl⟩ := Prod.mk.inj same
      exact own scheduled record there (trigger.trans scheduled)
    · exact (timely.onTime other (List.mem_of_getElem? there)).update fun r start _ _ known =>
        kept start (List.mem_of_getElem? known)

theorem timely_change (change : Change nextOccurrence clock task action next)
    (timely : Timely enabledFirst clock task) (steady : task.Steady action) : Timely enabledFirst clock next := by
  cases change with
  | offered => exact timely.offer (by rintro ⟨⟩)
  | dropped found =>
    exact timely.move found rfl rfl rfl rfl rfl rfl rfl (by rintro ⟨⟩) (by rintro ⟨⟩) (by rintro r ⟨⟩)
      (by rintro r ⟨⟩) (by rintro r outcome seen ⟨⟩)
  | claimed found phase executor idle =>
    obtain ⟨free, current⟩ := steady.1 ⟨phase_found found phase, executor, idle⟩
    exact timely.claim found free (current _ found)
  | created found phase => exact timely.createRun found phase
  | reset found =>
    have same : ∀ row : TaskRow, (resetClaim row).isEnabled = row.isEnabled ∧
      (resetClaim row).nextRunAt = row.nextRunAt ∧
        (resetClaim row).consecutiveFailures = row.consecutiveFailures := fun row => by
      unfold resetClaim
      split <;> exact ⟨rfl, rfl, rfl⟩
    obtain ⟨enabled, times, count⟩ := same task.row
    exact timely.move found rfl rfl rfl rfl enabled times count (by rintro ⟨⟩) (by rintro ⟨⟩) (by rintro r ⟨⟩)
      (by rintro r ⟨⟩) (by rintro r outcome seen ⟨⟩)
  | spawned found phase =>
    exact timely.move found rfl rfl rfl rfl rfl rfl rfl (fun _ => by rw [phase]; rfl) (by rintro ⟨⟩)
      (fun r place => by rw [phase]; exact place) (by rintro r ⟨⟩) (by rintro r outcome seen ⟨⟩)
  | settled found phase =>
    exact timely.settle later timed found phase (steady.2 _ _ _ _ found phase)
  | completed found phase =>
    exact timely.move found rfl rfl rfl (starts_complete _ _ _) rfl rfl rfl (by rintro ⟨⟩) (by rintro ⟨⟩)
      (fun r place => by rw [phase]; exact place) (fun r past => by rw [phase]; exact past)
      (by rintro r outcome seen ⟨⟩)
  | released found phase =>
    exact timely.move found rfl rfl rfl rfl rfl rfl rfl (by rintro ⟨⟩) (by rintro ⟨⟩)
      (fun r place => by rw [phase]; exact place) (fun r past => by rw [phase]; exact past)
      (by rintro r outcome seen ⟨⟩)
  | refused found phase =>
    exact timely.move found rfl rfl rfl rfl rfl rfl rfl (fun _ => by rw [phase]; rfl) (by rintro ⟨⟩)
      (by rintro r ⟨⟩) (by rintro r ⟨⟩) (by rintro r outcome seen ⟨⟩)
  | finished found phase =>
    exact timely.move found rfl rfl rfl rfl rfl rfl rfl (fun _ => by rw [phase]; rfl) (by rintro ⟨⟩)
      (fun r place => by rw [phase]; exact place) (by rintro r ⟨⟩)
      (by rintro r outcome seen ⟨⟩; exact timely.before)
  | seen | signalled => exact timely.cancel rfl
  | rowCancelled =>
    exact ⟨timely.failures, timely.disabled, timely.single, timely.once,
      fun job member => (timely.onTime job member).update fun _ _ _ _ _ after => after, timely.before⟩
  | runsCancelled =>
    refine timely.cancel ?_
    rw [List.map_map]
    exact List.map_congr_left fun run _ => cancelRun_start run

end Invariant

section Runs
variable {Id : Type} [DecidableEq Id] {nextOccurrence : String → Int → Option Int}
  {start : Scheduler Id} {steps : List (Scheduler Id × Event Id × Scheduler Id)}

/-- A server that has just started, with tasks that no run has ended of. -/
def Scheduler.Fresh (scheduler : Scheduler Id) : Prop :=
  scheduler.Started ∧ ∀ id, (scheduler.tasks id).row.consecutiveFailures = 0 ∧ (scheduler.tasks id).results = [] ∧
    ∀ run ∈ (scheduler.tasks id).runs, run.startedAt ≤ scheduler.clock

/-- What the claim asks of a step. -/
def OnSchedule (start scheduler : Scheduler Id) (event : Event Id) (next : Scheduler Id) : Prop :=
  (∀ id, Punctual (start.tasks id).row.isEnabled (next.tasks id)) ∧
  ∀ id action, event = .act id action → StartsDue scheduler.clock (scheduler.tasks id) action

def Steadily (scheduler : Scheduler Id) (event : Event Id) (_next : Scheduler Id) : Prop :=
  ∀ id action, event = .act id action → (scheduler.tasks id).Steady action

/-- Each task keeps its times, and the rows of the tick were due when they were fetched. -/
structure Timed (nextOccurrence : String → Int → Option Int) (start scheduler : Scheduler Id) : Prop where
  tasks : ∀ id, Timely (start.tasks id).row.isEnabled scheduler.clock (scheduler.tasks id)
  plans : ∀ id, (scheduler.tasks id).plan.Timed nextOccurrence
  queue : ∀ entry ∈ scheduler.queue, entry.2.isEnabled = true ∧
    ∃ next, entry.2.nextRunAt = some next ∧ next ≤ scheduler.clock

omit [DecidableEq Id] in
theorem fresh_timed (fresh : start.Fresh) (plans : ∀ id, (start.tasks id).plan.Timed nextOccurrence) :
    Timed nextOccurrence start start := by
  obtain ⟨⟨queue, started⟩, clean⟩ := fresh
  refine ⟨fun id => ?_, plans, fun entry member => ?_⟩
  · obtain ⟨none, -, -⟩ := started id
    obtain ⟨count, results, before⟩ := clean id
    have empty : (start.tasks id).phases = [] := by rw [Task.phases, none, List.map_nil]
    refine ⟨by rw [count, results]; rfl, by rw [results]; simp [reachedLimit], ?_, ?_, ?_, ?_⟩
    · rw [empty]
      intro i j p q there
      cases there
    · rw [none]
      intro i j a b there
      cases there
    · rw [none]
      intro job member
      cases member
    · intro stamp member
      obtain ⟨run, there, rfl⟩ := List.mem_map.mp member
      exact before run there
  · rw [queue] at member
    cases member

omit [DecidableEq Id] in
theorem fetched_due (member : entry ∈ fetchDueTasks scheduler) :
    entry.2.isEnabled = true ∧ ∃ next, entry.2.nextRunAt = some next ∧ next ≤ scheduler.clock := by
  have due := (List.mem_filter.mp (List.mem_mergeSort.mp member)).2
  simp only [TaskRow.due, Bool.and_eq_true, Option.any_eq_true, decide_eq_true_eq] at due
  obtain ⟨⟨enabled, -⟩, next, known, passed⟩ := due
  exact ⟨enabled, next, known, passed⟩

theorem Timed.update (timed : Timed nextOccurrence start scheduler) {id : Id}
    {queue : List (Id × TaskRow)} (timely : Timely (start.tasks id).row.isEnabled scheduler.clock task)
    (plan : task.plan = (scheduler.tasks id).plan) (part : ∀ entry ∈ queue, entry ∈ scheduler.queue) :
    Timed nextOccurrence start { scheduler with tasks := Function.update scheduler.tasks id task, queue } := by
  refine ⟨fun other => ?_, fun other => ?_, fun entry member => timed.queue entry (part entry member)⟩
  · by_cases same : other = id
    · subst same
      show Timely _ _ (Function.update scheduler.tasks other task other)
      rw [Function.update_self]
      exact timely
    · show Timely _ _ (Function.update scheduler.tasks id task other)
      rw [Function.update_of_ne same]
      exact timed.tasks other
  · by_cases same : other = id
    · subst same
      show (Function.update scheduler.tasks other task other).plan.Timed _
      rw [Function.update_self, plan]
      exact timed.plans other
    · show (Function.update scheduler.tasks id task other).plan.Timed _
      rw [Function.update_of_ne same]
      exact timed.plans other

theorem timed_step (later : ∀ expression start next, nextOccurrence expression start = some next → start < next)
    (timed : Timed nextOccurrence start scheduler)
    (moved : scheduler.step nextOccurrence event = some next) (steady : Steadily scheduler event next) :
    Timed nextOccurrence start next := by
  cases event with
  | wait elapsed =>
    obtain ⟨tasks, plans, queue⟩ := timed
    cases moved
    have passed : scheduler.clock ≤ scheduler.clock + elapsed := Int.le_add_of_nonneg_right (Int.natCast_nonneg elapsed)
    refine ⟨fun id => (tasks id).wait passed, plans, fun entry member => ?_⟩
    obtain ⟨enabled, due, known, before⟩ := queue entry member
    exact ⟨enabled, due, known, Int.le_trans before passed⟩
  | tick =>
    simp only [Scheduler.step] at moved
    split at moved
    · cases moved
      exact ⟨timed.tasks, timed.plans, fun entry member => fetched_due member⟩
    · cases moved
  | next =>
    simp only [Scheduler.step] at moved
    split at moved
    · cases moved
    · rename_i id row rest shape
      cases moved
      have head := timed.queue (id, row) (shape ▸ List.mem_cons_self)
      exact timed.update ((timed.tasks id).offer fun _ => head) rfl fun entry member =>
        shape ▸ List.mem_cons_of_mem _ member
  | act id action =>
    obtain ⟨task, changed, rfl⟩ := Option.map_eq_some_iff.mp moved
    have change := change_of_step changed
    exact timed.update (timely_change later (timed.plans id) change (timed.tasks id) (steady id action rfl))
      (plan_change change) fun _ member => member

/-- In a run whose steps are all steady, scheduled runs start when they are due and once for each
due time, the next time moves past them, and the count is the one of the results. -/
theorem on_schedule (fresh : start.Fresh) (plans : ∀ id, (start.tasks id).plan.Timed nextOccurrence)
    (later : ∀ expression start next, nextOccurrence expression start = some next → start < next)
    (trace : Trace (Scheduler.step nextOccurrence) start steps)
    (steady : ∀ moved ∈ steps, Steadily moved.1 moved.2.1 moved.2.2) :
    ∀ moved ∈ steps, OnSchedule start moved.1 moved.2.1 moved.2.2 := by
  refine trace.every_good (fresh_timed fresh plans) (fun _ _ _ => timed_step later) ?_ steady
  intro scheduler event next timed moved fair
  exact ⟨fun id => ((timed_step later timed moved fair).tasks id).punctual,
    fun id action same => startsDue_of_steady (timed.tasks id) (fair id action same)⟩

end Runs

/-! ## A cancelled run -/

theorem hourly_timed : hourly.plan.Timed fun _ _ => none := .inl ⟨3600, rfl, by decide⟩

theorem sample_fresh : sample.Fresh := ⟨sample_started, fun _ => ⟨rfl, rfl, fun _ member => nomatch member⟩⟩

/-- The first tick fetches the task. -/
theorem sample_tick : sample.step (fun _ _ => none) .tick = some { sample with queue := [((), hourly.row)] } := by
  have due : hourly.row.due 0 = true := by decide
  simp [Scheduler.step, fetchDueTasks, sample, due]

/-- A due task up to its handler, a cancellation, and the end of the handler and its update. -/
def cancelledRun : List (Event Unit) := .next :: entered 0 ++
  [.act () .cancel, .act () (.advanceCancel 0), .act () (.finish 0 .cancelled), .act () (.advance 0)]

theorem sample_cancelled : ∃ last, (.tick :: cancelledRun).foldlM (Scheduler.step fun _ _ => none) sample = some last ∧
    (last.tasks ()).jobs = [⟨.scheduled, hourly.row, some 0, .settled 0 .cancelled⟩] ∧
    (last.tasks ()).runs = [⟨.scheduled, .running, 0, none, none, none⟩] ∧
    (last.tasks ()).row.isEnabled = true ∧ (last.tasks ()).row.nextRunAt = some (0 : Int) ∧
    (last.tasks ()).row.due last.clock = true := by
  rw [List.foldlM_cons, sample_tick]
  exact ⟨_, rfl, rfl, rfl, rfl, rfl, rfl⟩

/-- A scheduled run that is cancelled leaves its task due. -/
theorem sample_due_again : ¬ ∀ steps, Trace (Scheduler.step fun _ _ => none) sample steps →
    ∀ moved ∈ steps, OnSchedule sample moved.1 moved.2.1 moved.2.2 := by
  intro all
  obtain ⟨last, followed, jobs, runs, enabled, times, -⟩ := sample_cancelled
  have fair : ∀ id, Punctual (sample.tasks id).row.isEnabled (last.tasks id) :=
    @Trace.everywhere _ _ _ _ (fun scheduler => ∀ id, Punctual (sample.tasks id).row.isEnabled (scheduler.tasks id))
      (fun id => ((fresh_timed sample_fresh fun _ => hourly_timed).tasks id).punctual)
      (fun steps trace moved member => (all steps trace moved member).1) _ _ followed
  have after := (fair ()).later _ (by rw [jobs]; exact List.mem_cons_self) rfl 0 _ rfl (by rw [runs]; rfl)
  rcases after with off | ⟨next, known, later⟩
  · rw [enabled] at off
    cases off
  · rw [times] at known
    cases known
    exact absurd later (by decide)

/-! ## Two runs an hour apart -/

instance decidableForallSome {α : Type} {o : Option α} {p : α → Prop} [DecidablePred p] :
    Decidable (∀ a, o = some a → p a) :=
  inferInstanceAs (Decidable (∀ a ∈ o, p a))

instance (row : TaskRow) (start : Int) : Decidable (row.After start) :=
  decidable_of_iff (row.isEnabled = false ∨ row.nextRunAt.any (start < ·) = true) (by
    simp [TaskRow.After, Option.any_eq_true])

instance (task : Task) (job : Job) (run : Nat) (outcome : TaskRunOutcome) (started : Int) :
    Decidable (task.Settles job run outcome started) := by
  unfold Task.Settles
  cases outcome <;> infer_instance

instance (task : Task) (job : Job) : Decidable (∀ run outcome started, job.phase = .ended run outcome started →
    task.Settles job run outcome started) :=
  match ended : job.phase with
  | .ended run outcome started => decidable_of_iff (task.Settles job run outcome started)
      ⟨fun settles _ _ _ same => by cases same; exact settles, fun all => all _ _ _ rfl⟩
  | .ready | .claimed | .unrecorded | .created _ | .running _ | .settled _ _ | .recorded _ | .closed _ =>
    isTrue (by rintro _ _ _ ⟨⟩)

instance (task : Task) (action : Action) : Decidable (task.Steady action) :=
  match action with
  | .advance index =>
    decidable_of_iff ((task.Claims index → (∀ p ∈ task.phases, ¬p.holds) ∧ ∀ job, task.jobs[index]? = some job →
      job.trigger = .scheduled →
      task.row.isEnabled = job.row.isEnabled ∧ task.row.nextRunAt = job.row.nextRunAt) ∧
      ∀ job, task.jobs[index]? = some job → ∀ run outcome started, job.phase = .ended run outcome started →
        task.Settles job run outcome started)
      (and_congr_right fun _ =>
        ⟨fun all job _ _ _ found => all job found _ _ _, fun all job found _ _ _ => all job _ _ _ found⟩)
  | .trigger | .refuse _ | .finish _ _ | .cancel | .advanceCancel _ => isTrue trivial

def steadily (scheduler : Scheduler Unit) : Event Unit → Bool
  | .act _ action => decide ((scheduler.tasks ()).Steady action)
  | _ => true

theorem steadily_of_check (scheduler : Scheduler Unit) (event : Event Unit) (next : Scheduler Unit)
    (checked : steadily scheduler event = true) : Steadily scheduler event next := by
  rintro _ action rfl
  exact of_decide_eq_true checked

/-- A run that succeeds after five seconds and, an hour later, one that fails. -/
def twoRuns : List (Event Unit) :=
  .tick :: .next :: entered 0 ++ .wait 5000000 :: .act () (.finish 0 .success) :: entered 0 ++
    .wait 3600000000 :: .tick :: .next :: entered 1 ++ .act () (.finish 1 (.failure "no route")) :: entered 1

/-- The task is tried again after its delay of five minutes. -/
theorem sample_on_schedule : ∃ steps last, Trace (Scheduler.step fun _ _ => none) sample steps ∧
    steps.map (fun moved => moved.2.1) = twoRuns ∧
    twoRuns.foldlM (Scheduler.step fun _ _ => none) sample = some last ∧
    ((last.tasks ()).results, (last.tasks ()).row.consecutiveFailures, (last.tasks ()).row.nextRunAt) =
      ([.failure, .success], 1, some 3905000000) ∧
    ∀ moved ∈ steps, OnSchedule sample moved.1 moved.2.1 moved.2.2 := by
  have ran : (twoRuns.foldlM (fun s e => if steadily s e then Scheduler.step (fun _ _ => none) s e else none) sample).map
      (fun last => ((last.tasks ()).results, (last.tasks ()).row.consecutiveFailures, (last.tasks ()).row.nextRunAt)) =
        some ([.failure, .success], 1, some 3905000000) := by decide +kernel
  obtain ⟨last, led, ended⟩ := Option.map_eq_some_iff.mp ran
  obtain ⟨steps, trace, same, followed, fair⟩ := exists_trace steadily_of_check led
  exact ⟨steps, last, trace, same, followed, ended,
    on_schedule sample_fresh (fun _ => hourly_timed) (by rintro _ _ _ ⟨⟩) trace fair⟩

end Duskcue.Tasks
