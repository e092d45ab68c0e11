import Duskcue.PartialRuns
import Duskcue.TaskScheduler
import Mathlib.Data.List.Basic

/-! One execution of a task at a time. A claim waits for the row to be idle, so the executions
are kept apart exactly as long as the row is set idle only after an execution and claimed only
after the bookkeeping of the one before. -/
namespace Duskcue.Tasks
open PartialRuns

variable {i : Nat} {p q : Phase}

/-- From the claim to the removal of the token. -/
def Phase.busy : Phase → Bool
  | .ready | .closed _ => false
  | _ => true

/-- From the claim to the update of the row after the run. -/
def Phase.holds : Phase → Bool
  | .claimed | .unrecorded | .created _ | .running _ | .ended .. => true
  | _ => false

/-- The row is updated, but the bookkeeping is not over. -/
def Phase.finishing : Phase → Bool
  | .settled .. | .recorded _ => true
  | _ => false

/-- The run of a job under way. -/
def Phase.run : Phase → Option Nat
  | .created run | .running run | .ended run _ _ | .settled run _ | .recorded run => some run
  | _ => none

/-- The run whose record the job has yet to complete. -/
def Phase.owes : Phase → Option Nat
  | .created run | .running run | .ended run _ _ | .settled run _ => some run
  | _ => none

/-- The run that the next statement finishes. -/
def Phase.finishes : Phase → Option Nat
  | .ended run _ _ | .settled run _ | .recorded run => some run
  | _ => none

def Task.phases (task : Task) : List Phase := task.jobs.map Job.phase

/-- The job's next statement claims the task. -/
def Task.Claims (task : Task) (index : Nat) : Prop :=
  task.phases[index]? = some .ready ∧ task.plan.executor = true ∧ task.row.state ≠ .running

/-- Of the jobs in these phases, at most one is in a marked one. -/
def AtMostOne (mark : Phase → Bool) (phases : List Phase) : Prop :=
  ∀ (i j : Nat) (p q : Phase), phases[i]? = some p → phases[j]? = some q → mark p → mark q → i = j

/-- The row is running as long as an execution holds it. -/
def Held (phases : List Phase) (row : TaskRow) : Prop := ∀ p ∈ phases, p.holds → row.state = .running

/-- Each record that is not terminal has an execution under way that will complete it. -/
def Ends (phases : List Phase) (runs : List Run) : Prop :=
  ∀ (r : Nat) (run : Run), runs[r]? = some run → run.state = .running → ∃ p ∈ phases, p.owes = some r

structure Lawful (task : Task) : Prop where
  alone : AtMostOne Phase.busy task.phases
  held : Held task.phases task.row
  ends : Ends task.phases task.runs

/-- A statement that finishes a run leaves a later one alone. -/
def Undisturbed (task : Task) (action : Action) (next : Task) : Prop :=
  ∀ i p run, action = .advance i → task.phases[i]? = some p → p.finishes = some run →
    ∀ later, run < later → later < task.runs.length →
      next.runs[later]? = task.runs[later]? ∧ (task.active = some later → next.active = some later) ∧
      next.row.state = task.row.state ∧ next.row.lastRunResult = task.row.lastRunResult

/-- A record keeps the terminal state that it has. -/
def Terminal (task next : Task) : Prop :=
  ∀ (r : Nat) run, task.runs[r]? = some run → run.state ≠ .running → next.runs[r]? = some run

/-- A claim comes after all bookkeeping, and a cancellation sets the row idle when no
execution holds it. -/
def Task.Fine (task : Task) : Action → Prop
  | .advance index => task.Claims index → ∀ p ∈ task.phases, ¬p.finishing
  | .advanceCancel index => task.cancels[index]? = some .recorded → ∀ p ∈ task.phases, ¬p.holds
  | _ => True

section Phases
variable {task : Task} {phases : List Phase} {row : TaskRow} {runs : List Run} {i : Nat} {p q : Phase}
  {mark : Phase → Bool}

theorem phases_modify (jobs : List Job) (index : Nat) (f : Job → Job) (phase : Phase)
    (sets : ∀ job, (f job).phase = phase) :
    (jobs.modify index f).map Job.phase = (jobs.map Job.phase).set index phase := by
  apply List.ext_getElem?
  intro j
  rw [List.getElem?_map, List.getElem?_modify, List.getElem?_set, List.getElem?_map, List.length_map]
  by_cases here : index = j
  · subst here
    by_cases inside : index < jobs.length <;> simp [inside, sets]
  · simp [here]

theorem phases_offer (trigger : Trigger) (row : TaskRow) :
    (task.offer trigger row).phases = task.phases ++ [.ready] := by
  simp [Task.phases, Task.offer]

theorem phases_setPhase (index : Nat) (phase : Phase) :
    (task.setPhase index phase).phases = task.phases.set index phase :=
  phases_modify task.jobs index _ phase fun _ => rfl

theorem phases_claim (index : Nat) : (task.claim index).phases = task.phases.set index .claimed :=
  phases_modify task.jobs index _ .claimed fun _ => rfl

theorem phase_found (found : task.jobs[i]? = some job) (phase : job.phase = p) : task.phases[i]? = some p := by
  rw [Task.phases, List.getElem?_map, found]
  exact congrArg some phase

theorem busy_of_holds (holds : p.holds) : p.busy := by
  cases p <;> first | rfl | cases holds

theorem busy_of_finishing (finishing : p.finishing) : p.busy := by
  cases p <;> first | rfl | cases finishing

theorem busy_of_run (run : p.run = some r) : p.busy := by
  cases p <;> first | rfl | cases run

theorem holds_or_finishing (busy : p.busy) : p.holds ∨ p.finishing := by
  cases p <;> first | exact .inl rfl | exact .inr rfl | cases busy

/-- A job may go on as it was marked, or lose its mark. -/
theorem atMostOne_set (alone : AtMostOne mark phases) (found : phases[i]? = some p) (later : mark q → mark p) :
    AtMostOne mark (phases.set i q) := by
  have former (j : Nat) (p' : Phase) (there : (phases.set i q)[j]? = some p') (marked : mark p') :
      ∃ p, phases[j]? = some p ∧ mark p := by
    rw [List.getElem?_set] at there
    split at there
    · rename_i here
      subst here
      split at there
      · cases there
        exact ⟨p, found, later marked⟩
      · cases there
    · exact ⟨p', there, marked⟩
  intro j k p' q' one two markedOne markedTwo
  obtain ⟨first, oneOld, markedFirst⟩ := former j p' one markedOne
  obtain ⟨other, twoOld, markedOther⟩ := former k q' two markedTwo
  exact alone j k first other oneOld twoOld markedFirst markedOther

theorem atMostOne_first (quiet : ∀ p ∈ phases, ¬mark p) : AtMostOne mark (phases.set i q) := by
  have here (j : Nat) (p' : Phase) (there : (phases.set i q)[j]? = some p') (marked : mark p') : i = j := by
    rw [List.getElem?_set] at there
    split at there
    · assumption
    · exact absurd marked (quiet p' (List.mem_of_getElem? there))
  intro j k p' q' one two markedOne markedTwo
  exact (here j p' one markedOne).symm.trans (here k q' two markedTwo)

/-- A job that begins unmarked changes nothing. -/
theorem atMostOne_append (alone : AtMostOne mark phases) (unmarked : mark q = false) :
    AtMostOne mark (phases ++ [q]) := by
  have former (j : Nat) (p : Phase) (there : (phases ++ [q])[j]? = some p) (marked : mark p) : phases[j]? = some p := by
    by_cases old : j < phases.length
    · rwa [List.getElem?_append_left old] at there
    · rw [List.getElem?_append_right (by omega)] at there
      rw [List.mem_singleton.mp (List.mem_of_getElem? there), unmarked] at marked
      cases marked
  exact fun i j p q' one two markedOne markedTwo =>
    alone i j p q' (former i p one markedOne) (former j q' two markedTwo) markedOne markedTwo

/-- Beside a marked job there is no other. -/
theorem atMostOne_others (alone : AtMostOne mark phases) (found : phases[i]? = some p) (marked : mark p)
    (there : phases[j]? = some p') (other : i ≠ j) : ¬mark p' :=
  fun second => other (alone i j p p' found there marked second)

theorem mem_set_cases (member : p' ∈ phases.set i q) : p' = q ∨ ∃ j, i ≠ j ∧ phases[j]? = some p' := by
  obtain ⟨j, there⟩ := List.mem_iff_getElem?.mp member
  rw [List.getElem?_set] at there
  split at there
  · split at there
    · exact .inl (Option.some.inj there).symm
    · cases there
  · rename_i other
    exact .inr ⟨j, other, there⟩

theorem mem_set_other (there : phases[j]? = some p') (other : i ≠ j) : p' ∈ phases.set i q := by
  apply List.mem_of_getElem? (i := j)
  rw [List.getElem?_set, if_neg other, there]

theorem mem_set_self (found : phases[i]? = some p) : q ∈ phases.set i q :=
  List.mem_set (List.getElem?_eq_some_iff.mp found).1 q

theorem held_set (held : Held phases row) (found : phases[i]? = some p) (later : q.holds → p.holds) :
    Held (phases.set i q) row := by
  intro p' member holds
  rcases mem_set_cases member with rfl | ⟨j, -, there⟩
  · exact held p (List.mem_of_getElem? found) (later holds)
  · exact held p' (List.mem_of_getElem? there) holds

/-- The only execution lets go of the row. -/
theorem held_release (alone : AtMostOne Phase.busy phases) (found : phases[i]? = some p) (busy : p.busy)
    (free : q.holds = false) : Held (phases.set i q) other := by
  intro p' member holds
  rcases mem_set_cases member with rfl | ⟨j, elsewhere, there⟩
  · exact absurd holds (by simp [free])
  · exact absurd (busy_of_holds holds) (atMostOne_others alone found busy there elsewhere)

theorem ends_set (ends : Ends phases runs) (found : phases[i]? = some p)
    (later : ∀ r, p.owes = some r → q.owes = some r) :
    Ends (phases.set i q) runs := by
  intro r run there running
  obtain ⟨p', member, owes⟩ := ends r run there running
  obtain ⟨j, place⟩ := List.mem_iff_getElem?.mp member
  by_cases here : i = j
  · subst here
    rw [found] at place
    cases place
    exact ⟨q, mem_set_self found, later r owes⟩
  · exact ⟨p', mem_set_other place here, owes⟩

end Phases

section Steps
variable {nextOccurrence : String → Int → Option Int} {clock : Int} {task next : Task} {action : Action}

/-- What holds as long as all steps are fine: the execution under way has the latest run. -/
structure Sound (task : Task) : Prop where
  lawful : Lawful task
  latest : ∀ p ∈ task.phases, ∀ r, p.run = some r → r + 1 = task.runs.length

theorem Sound.of_same (sound : Sound task) (phases : next.phases = task.phases) (row : next.row.state = task.row.state)
    (runs : next.runs = task.runs) : Sound next := by
  obtain ⟨⟨alone, held, ends⟩, latest⟩ := sound
  exact ⟨⟨phases ▸ alone, fun p member holds => row.trans (held p (phases ▸ member) holds),
    by rw [phases, runs]; exact ends⟩, by rw [phases, runs]; exact latest⟩

theorem latest_set {phases : List Phase}
    (latest : ∀ p ∈ phases, ∀ r, p.run = some r → r + 1 = length) (found : phases[i]? = some p)
    (later : ∀ r, q.run = some r → p.run = some r) : ∀ p ∈ phases.set i q, ∀ r, p.run = some r → r + 1 = length := by
  intro p' member r run
  rcases mem_set_cases member with rfl | ⟨j, -, there⟩
  · exact latest p (List.mem_of_getElem? found) r (later r run)
  · exact latest p' (List.mem_of_getElem? there) r run

/-- A statement that moves one execution on within its hold of the row. -/
theorem Sound.setPhase (sound : Sound task) (found : task.phases[i]? = some p)
    (busy : q.busy → p.busy) (holds : q.holds → p.holds) (run : ∀ r, q.run = some r → p.run = some r)
    (owes : ∀ r, p.owes = some r → q.owes = some r) : Sound (task.setPhase i q) := by
  obtain ⟨⟨alone, held, ends⟩, latest⟩ := sound
  refine ⟨⟨?_, ?_, ?_⟩, ?_⟩ <;> rw [phases_setPhase]
  · exact atMostOne_set alone found busy
  · exact held_set held found holds
  · exact ends_set ends found owes
  · exact latest_set latest found run

/-- A claimed row has no other execution if no bookkeeping is left. -/
theorem Sound.quiet (sound : Sound task) (idle : task.row.state ≠ .running) (booked : ∀ p ∈ task.phases, ¬p.finishing) :
    ∀ p ∈ task.phases, ¬p.busy := fun p member busy =>
  (holds_or_finishing busy).elim (fun holds => idle (sound.lawful.held p member holds)) (booked p member)

theorem Sound.claim (sound : Sound task) (found : task.phases[i]? = some .ready)
    (quiet : ∀ p ∈ task.phases, ¬p.busy) : Sound (task.claim i) := by
  obtain ⟨⟨_, _, ends⟩, latest⟩ := sound
  refine ⟨⟨?_, fun _ _ _ => rfl, ?_⟩, ?_⟩ <;> rw [phases_claim]
  · exact atMostOne_first quiet
  · exact ends_set ends found (by rintro r ⟨⟩)
  · exact latest_set latest found (by rintro r ⟨⟩)

theorem Sound.createRun (sound : Sound task) (found : task.phases[i]? = some .claimed) :
    Sound (task.createRun i trigger clock) := by
  obtain ⟨⟨alone, held, ends⟩, _⟩ := sound
  have phases : (task.createRun i trigger clock).phases = task.phases.set i (.created task.runs.length) :=
    phases_setPhase i _
  refine ⟨⟨?_, ?_, ?_⟩, ?_⟩ <;> rw [phases]
  · exact atMostOne_set alone found fun _ => rfl
  · exact held_set held found fun _ => rfl
  · intro r run there running
    by_cases old : r < task.runs.length
    · have former := ends_set (q := .created task.runs.length) ends found (by rintro r ⟨⟩)
      exact former r run (by simpa [Task.createRun, List.getElem?_append_left old] using there) running
    · have bound := (List.getElem?_eq_some_iff.mp there).1
      simp only [Task.createRun, List.length_append, List.length_singleton] at bound
      have fresh : r = task.runs.length := by omega
      exact ⟨_, mem_set_self found, fresh ▸ rfl⟩
  · intro p member r run
    show r + 1 = (task.runs ++ [_]).length
    rw [List.length_append, List.length_singleton]
    rcases mem_set_cases member with rfl | ⟨j, elsewhere, there⟩
    · rw [Option.some.inj run]
    · exact absurd (busy_of_run run) (atMostOne_others alone found rfl there elsewhere)

/-- The update after a run comes from the only execution. -/
theorem Sound.free (sound : Sound task) {row : TaskRow}
    (found : task.phases[i]? = some p) (busy : p.busy) (free : q.holds = false)
    (run : ∀ r, q.run = some r → p.run = some r) (owes : ∀ r, p.owes = some r → q.owes = some r) :
    Sound { task.setPhase i q with row, results } := by
  obtain ⟨⟨alone, _, ends⟩, latest⟩ := sound
  have phases : Task.phases { task.setPhase i q with row, results } = task.phases.set i q := phases_setPhase i q
  refine ⟨⟨?_, ?_, ?_⟩, ?_⟩ <;> rw [phases]
  · exact atMostOne_set alone found fun _ => busy
  · exact held_release alone found busy free
  · exact ends_set ends found owes
  · exact latest_set latest found run

theorem completeRun_ended (plan : Plan) (outcome : TaskRunOutcome) (run : Run) :
    (completeRun plan outcome clock run).state ≠ .running := by
  unfold completeRun
  split
  · cases outcome <;> simp [TaskRunOutcome.result]
  · assumption

theorem cancelRun_ended (run : Run) : (cancelRun clock run).state ≠ .running := by
  unfold cancelRun
  split
  · simp
  · assumption

theorem Sound.complete (sound : Sound task) {run : Nat}
    (found : task.phases[i]? = some (.settled run outcome)) : Sound (task.complete i run outcome clock) := by
  obtain ⟨⟨alone, held, ends⟩, latest⟩ := sound
  have phases : (task.complete i run outcome clock).phases = task.phases.set i (.recorded run) := phases_setPhase i _
  have length : (task.complete i run outcome clock).runs.length = task.runs.length := List.length_modify ..
  refine ⟨⟨?_, ?_, ?_⟩, ?_⟩ <;> rw [phases]
  · exact atMostOne_set alone found fun _ => rfl
  · exact held_set held found (by rintro ⟨⟩)
  · intro r record there running
    simp only [Task.complete, List.getElem?_modify] at there
    by_cases same : run = r
    · simp only [same, if_true] at there
      obtain ⟨old, -, rfl⟩ := Option.map_eq_some_iff.mp there
      exact absurd running (completeRun_ended task.plan outcome old)
    · simp only [same, if_false, id_map'] at there
      obtain ⟨p, member, owes⟩ := ends r record there running
      obtain ⟨j, place⟩ := List.mem_iff_getElem?.mp member
      refine ⟨p, mem_set_other place ?_, owes⟩
      rintro rfl
      rw [found] at place
      cases place
      exact same (Option.some.inj owes)
  · rw [length]
    exact latest_set latest found fun _ run => run

theorem Sound.offer (sound : Sound task) : Sound (task.offer trigger row) := by
  obtain ⟨⟨alone, held, ends⟩, latest⟩ := sound
  refine ⟨⟨?_, ?_, ?_⟩, ?_⟩ <;> rw [phases_offer]
  · exact atMostOne_append alone rfl
  · intro p member holds
    rcases List.mem_append.mp member with old | fresh
    · exact held p old holds
    · rw [List.mem_singleton.mp fresh] at holds
      cases holds
  · intro r run there running
    obtain ⟨p, member, owes⟩ := ends r run there running
    exact ⟨p, List.mem_append_left _ member, owes⟩
  · intro p member r run
    rcases List.mem_append.mp member with old | fresh
    · exact latest p old r run
    · rw [List.mem_singleton.mp fresh] at run
      cases run

theorem Sound.cancelRuns (sound : Sound task) :
    Sound { task with runs := task.runs.map (cancelRun clock), cancels } := by
  obtain ⟨⟨alone, held, _⟩, latest⟩ := sound
  refine ⟨⟨alone, held, fun r run there running => ?_⟩, fun p member r run => ?_⟩
  · rw [List.getElem?_map] at there
    obtain ⟨old, -, rfl⟩ := Option.map_eq_some_iff.mp there
    exact absurd running (cancelRun_ended old)
  · exact (latest p member r run).trans (List.length_map _).symm

theorem sound_change (change : Change nextOccurrence clock task action next) (sound : Sound task)
    (fine : task.Fine action) : Sound next := by
  cases change with
  | offered =>
    exact sound.offer
  | dropped found phase =>
    exact sound.setPhase (phase_found found phase) (by rintro ⟨⟩) (by rintro ⟨⟩) (by rintro r ⟨⟩) (by rintro r ⟨⟩)
  | claimed found phase executor idle =>
    have ready := phase_found found phase
    exact sound.claim ready (sound.quiet idle (fine ⟨ready, executor, idle⟩))
  | created found phase => exact sound.createRun (phase_found found phase)
  | reset found phase => exact sound.free (phase_found found phase) rfl rfl (by rintro r ⟨⟩) (by rintro r ⟨⟩)
  | spawned found phase =>
    have moved := sound.setPhase (q := .running _) (phase_found found phase) id id (fun _ => id) (fun _ => id)
    exact moved.of_same rfl rfl rfl
  | settled found phase => exact sound.free (phase_found found phase) rfl rfl (fun _ => id) (fun _ => id)
  | completed found phase => exact sound.complete (phase_found found phase)
  | @released _ run _ found phase =>
    have moved := sound.setPhase (q := .closed (some run)) (phase_found found phase) (by rintro ⟨⟩) (by rintro ⟨⟩)
      (by rintro r ⟨⟩) (by rintro r ⟨⟩)
    exact moved.of_same rfl rfl rfl
  | refused found phase =>
    exact sound.setPhase (phase_found found phase) id id (by rintro r ⟨⟩) (by rintro r ⟨⟩)
  | finished found phase =>
    exact sound.setPhase (phase_found found phase) id id (fun _ => id) (fun _ => id)
  | seen | signalled => exact sound.of_same rfl rfl rfl
  | runsCancelled => exact sound.cancelRuns
  | rowCancelled found =>
    obtain ⟨⟨alone, _, ends⟩, latest⟩ := sound
    exact ⟨⟨alone, fun p member holds => absurd holds (fine found p member), ends⟩, latest⟩

/-- A lawful step is fine: a claim beside unfinished bookkeeping makes a second execution, and
a cancellation takes the row from the one that holds it. -/
theorem fine_of_lawful (change : Change nextOccurrence clock task action next) (lawful : Lawful next) :
    task.Fine action := by
  have unclaimed {index : Nat} {job : Job} (found : task.jobs[index]? = some job) (other : job.phase ≠ .ready) :
      task.Fine (.advance index) := fun claims =>
    absurd (Option.some.inj ((phase_found found rfl).symm.trans claims.1)) other
  cases change with
  | offered | refused | finished | seen => trivial
  | dropped _ _ refused =>
    rintro ⟨-, executor, idle⟩
    exact absurd refused (not_or.mpr ⟨by simp [executor], idle⟩)
  | @claimed index _ found phase =>
    rintro - p member finishing
    obtain ⟨j, place⟩ := List.mem_iff_getElem?.mp member
    have ready := phase_found found phase
    have other : index ≠ j := by
      rintro rfl
      rw [ready] at place
      cases place
      cases finishing
    have alone := lawful.alone
    rw [phases_claim] at alone
    have claimed := List.getElem?_set_self (a := Phase.claimed) (List.getElem?_eq_some_iff.mp ready).1
    have kept : (task.phases.set index .claimed)[j]? = some p := (List.getElem?_set_ne other).trans place
    exact other (alone index j _ p claimed kept rfl (busy_of_finishing finishing))
  | created found phase | reset found phase | spawned found phase | settled found phase | completed found phase
  | released found phase => exact unclaimed found (by simp [phase])
  | signalled found | runsCancelled found =>
    intro recorded
    rw [found] at recorded
    cases recorded
  | rowCancelled =>
    rintro - p member holds
    cases lawful.held p member holds

/-- While a run is being finished there is no later one. -/
theorem undisturbed_of_sound (sound : Sound task) : Undisturbed task action next := by
  rintro i p run rfl found finishes later above below
  have latest := sound.latest p (List.mem_of_getElem? found) run
    (by cases p <;> first | exact finishes | cases finishes)
  omega

theorem terminal_change (change : Change nextOccurrence clock task action next) : Terminal task next := by
  intro r run there ended
  have kept (f : Run → Run) (same : f run = run) (index : Nat) : (task.runs.modify index f)[r]? = some run := by
    rw [List.getElem?_modify, there]
    split
    · exact congrArg some same
    · rfl
  cases change with
  | created =>
    exact (List.getElem?_append_left (List.getElem?_eq_some_iff.mp there).1).trans there
  | completed => exact kept (completeRun _ _ _) (if_neg ended) _
  | runsCancelled =>
    show (task.runs.map (cancelRun clock))[r]? = some run
    rw [List.getElem?_map, there]
    exact congrArg some (if_neg ended)
  | offered | dropped | claimed | reset | spawned | settled | released | refused | finished | seen | signalled
  | rowCancelled => exact there

end Steps

section Runs
variable {Id : Type} [DecidableEq Id] {nextOccurrence : String → Int → Option Int}
  {start : Scheduler Id} {steps : List (Scheduler Id × Event Id × Scheduler Id)}

/-- A server that has just started: no call is under way, and the records are terminal. -/
def Scheduler.Started (scheduler : Scheduler Id) : Prop :=
  scheduler.queue = [] ∧ ∀ id, (scheduler.tasks id).jobs = [] ∧ (scheduler.tasks id).cancels = [] ∧
    ∀ run ∈ (scheduler.tasks id).runs, run.state ≠ .running

/-- What the claim asks of a step: where it leads, each task has one execution at a time, which
holds the row, and completes its record; it leaves later runs and terminal records alone. -/
def Exclusive (scheduler : Scheduler Id) (event : Event Id) (next : Scheduler Id) : Prop :=
  (∀ id, Lawful (next.tasks id)) ∧ (∀ id, Terminal (scheduler.tasks id) (next.tasks id)) ∧
  ∀ id action, event = .act id action → Undisturbed (scheduler.tasks id) action (next.tasks id)

def Fine (scheduler : Scheduler Id) (event : Event Id) (_next : Scheduler Id) : Prop :=
  ∀ id action, event = .act id action → (scheduler.tasks id).Fine action

omit [DecidableEq Id] in
theorem started_sound (started : start.Started) (id : Id) : Sound (start.tasks id) := by
  obtain ⟨none, -, ended⟩ := started.2 id
  have empty : (start.tasks id).phases = [] := by rw [Task.phases, none, List.map_nil]
  refine ⟨⟨?_, ?_, fun r run there running => absurd running (ended run (List.mem_of_getElem? there))⟩, ?_⟩
  · rw [empty]
    intro i j p q there
    cases there
  · rw [empty]
    intro p member
    cases member
  · rw [empty]
    intro p member
    cases member

theorem act_change {scheduler next : Scheduler Id} {id : Id}
    (moved : scheduler.step nextOccurrence (.act id action) = some next) :
    Change nextOccurrence scheduler.clock (scheduler.tasks id) action (next.tasks id) := by
  obtain ⟨task, changed, rfl⟩ := Option.map_eq_some_iff.mp moved
  show Change nextOccurrence scheduler.clock (scheduler.tasks id) action (Function.update scheduler.tasks id task id)
  rw [Function.update_self]
  exact change_of_step changed

theorem task_step {scheduler next : Scheduler Id}
    (moved : scheduler.step nextOccurrence event = some next) (id : Id) :
    next.tasks id = scheduler.tasks id ∨ (∃ row, next.tasks id = (scheduler.tasks id).offer .scheduled row) ∨
      ∃ action, event = .act id action ∧
        Change nextOccurrence scheduler.clock (scheduler.tasks id) action (next.tasks id) := by
  cases event with
  | wait => exact .inl (Option.some.inj moved ▸ rfl)
  | tick =>
    simp only [Scheduler.step] at moved
    split at moved
    · exact .inl (Option.some.inj moved ▸ rfl)
    · cases moved
  | next =>
    simp only [Scheduler.step] at moved
    split at moved
    · cases moved
    · rename_i other row queue _
      rw [← Option.some.inj moved]
      by_cases same : id = other
      · subst same
        exact .inr (.inl ⟨row, Function.update_self ..⟩)
      · exact .inl (Function.update_of_ne same ..)
  | act other action =>
    by_cases same : id = other
    · subst same
      exact .inr (.inr ⟨action, rfl, act_change moved⟩)
    · obtain ⟨task, _, rfl⟩ := Option.map_eq_some_iff.mp moved
      exact .inl (Function.update_of_ne same ..)

/-- The executions of every task are kept apart in the runs whose steps are all fine, and in no others. -/
theorem exclusive_iff (started : start.Started) (trace : Trace (Scheduler.step nextOccurrence) start steps) :
    (∀ moved ∈ steps, Exclusive moved.1 moved.2.1 moved.2.2) ↔
      ∀ moved ∈ steps, Fine moved.1 moved.2.1 moved.2.2 := by
  have keeps : ∀ (scheduler : Scheduler Id) event next, (∀ id, Sound (scheduler.tasks id)) →
      scheduler.step nextOccurrence event = some next → Fine scheduler event next → ∀ id, Sound (next.tasks id) := by
    intro scheduler event next sound moved fine id
    rcases task_step moved id with same | ⟨row, offered⟩ | ⟨action, rfl, change⟩
    · exact same ▸ sound id
    · exact offered ▸ (sound id).offer
    · exact sound_change change (sound id) (fine id action rfl)
  refine trace.good_iff (started_sound started) keeps fun scheduler event next sound moved => ⟨?_, fun fine => ?_⟩
  · rintro ⟨lawful, -, -⟩ id action rfl
    exact fine_of_lawful (act_change moved) (lawful id)
  · refine ⟨fun id => (keeps _ _ _ sound moved fine id).lawful, fun id => ?_,
      fun id action _ => undisturbed_of_sound (sound id)⟩
    rcases task_step moved id with same | ⟨row, offered⟩ | ⟨action, rfl, change⟩
    · exact fun r run there _ => same ▸ there
    · exact fun r run there _ => offered ▸ there
    · exact terminal_change change

end Runs

/-! ## A server with one task -/

/-- A task that runs each hour and has never run. -/
def hourly : Task where
  plan := ⟨none, some 3600, 60, 3, 300, true⟩
  row := ⟨true, .idle, 0, none, none, none, some 0⟩
  runs := []
  active := none
  cancelled := []
  jobs := []
  cancels := []
  results := []

def sample : Scheduler Unit := ⟨0, [()], fun _ => hourly, []⟩

theorem sample_started : sample.Started := ⟨rfl, fun _ => ⟨rfl, rfl, fun _ member => nomatch member⟩⟩

instance (task : Task) (index : Nat) : Decidable (task.Claims index) := inferInstanceAs (Decidable (_ ∧ _ ∧ _))

/-- The condition of a step, for a server with one task. -/
def finely (scheduler : Scheduler Unit) : Event Unit → Bool
  | .act _ (.advance index) =>
    !decide ((scheduler.tasks ()).Claims index) || (scheduler.tasks ()).phases.all fun p => !p.finishing
  | .act _ (.advanceCancel index) =>
    (scheduler.tasks ()).cancels[index]? ≠ some .recorded || (scheduler.tasks ()).phases.all fun p => !p.holds
  | _ => true

theorem fine_of_finely (scheduler : Scheduler Unit) (event : Event Unit) (next : Scheduler Unit)
    (fine : finely scheduler event = true) : Fine scheduler event next := by
  rintro _ action rfl
  cases action with
  | advance | advanceCancel =>
    simp only [finely, Bool.or_eq_true, Bool.not_eq_true', decide_eq_false_iff_not, decide_eq_true_eq,
      List.all_eq_true] at fine
    intro claims p member
    simpa using fine.resolve_left (by simp [claims]) p member
  | _ => trivial

/-- An execution from the claim to its handler, or from the end of that to the end of all. -/
def entered (job : Nat) : List (Event Unit) := List.replicate 3 (.act () (.advance job))

/-- A triggered task runs to the end of its bookkeeping, and once more. -/
def triggeredTwice : List (Event Unit) :=
  .act () .trigger :: entered 0 ++ .act () (.finish 0 .success) :: entered 0 ++
    .act () .trigger :: entered 1 ++ .act () (.finish 1 .timeout) :: entered 1

theorem sample_exclusive : ∃ steps last, Trace (Scheduler.step fun _ _ => none) sample steps ∧
    steps.map (fun moved => moved.2.1) = triggeredTwice ∧
    triggeredTwice.foldlM (Scheduler.step fun _ _ => none) sample = some last ∧
    (last.tasks ()).phases = [.closed (some 0), .closed (some 1)] ∧ (last.tasks ()).row.state = .idle ∧
    ∀ moved ∈ steps, Exclusive moved.1 moved.2.1 moved.2.2 := by
  obtain ⟨last, led, phases, idle⟩ : ∃ last,
      triggeredTwice.foldlM (fun s e => if finely s e then Scheduler.step (fun _ _ => none) s e else none) sample =
        some last ∧
      (last.tasks ()).phases = [.closed (some 0), .closed (some 1)] ∧ (last.tasks ()).row.state = .idle :=
    ⟨_, rfl, rfl, rfl⟩
  obtain ⟨steps, trace, same, followed, fair⟩ := exists_trace fine_of_finely led
  exact ⟨steps, last, trace, same, followed, phases, idle, (exclusive_iff sample_started trace).mpr fair⟩

/-- A cancellation, to its last statement. -/
def cancelled : List (Event Unit) := .act () .cancel :: List.replicate 3 (.act () (.advanceCancel 0))

/-- A cancelled task is triggered anew while its handler has not stopped; then the first
execution ends and takes the row, and the token, from the second. -/
theorem sample_overlaps :
    (¬ ∀ steps, Trace (Scheduler.step fun _ _ => none) sample steps →
      ∀ moved ∈ steps, Exclusive moved.1 moved.2.1 moved.2.2) ∧
    ∃ last, (Event.act () .trigger :: entered 0 ++ cancelled ++ .act () .trigger :: entered 1 ++
        .act () (.finish 0 .cancelled) :: entered 0).foldlM (Scheduler.step fun _ _ => none) sample = some last ∧
      (last.tasks ()).phases = [.closed (some 0), .running 1] ∧ (last.tasks ()).row.state = .idle ∧
      (last.tasks ()).active = none := by
  refine ⟨fun all => ?_, _, rfl, rfl, rfl, rfl⟩
  obtain ⟨last, followed, phases, idle⟩ : ∃ last, (Event.act () .trigger :: entered 0 ++ cancelled).foldlM
      (Scheduler.step fun _ _ => none) sample = some last ∧ (last.tasks ()).phases = [.running 0] ∧
      (last.tasks ()).row.state = .idle := ⟨_, rfl, rfl, rfl⟩
  have lawful : ∀ id, Lawful (last.tasks id) :=
    @Trace.everywhere _ _ _ _ (fun scheduler => ∀ id, Lawful (scheduler.tasks id))
      (fun id => (started_sound sample_started id).lawful)
      (fun steps trace moved member => (all steps trace moved member).1) _ _ followed
  have running := (lawful ()).held (.running 0) (by rw [phases]; exact List.mem_cons_self) rfl
  rw [idle] at running
  cases running

end Duskcue.Tasks
