import Duskcue.AdmissionOwner
import Duskcue.RequestIdentity

/-! The local deadline is a conservative copy of the stored one. A reservation's deadline
only grows, and a receipt carries the reading of the clock from before it was set; so
what a task installs, counted from before its transaction began, is never later than
the deadline of the row, in whatever order the answers are installed. -/
namespace Duskcue.Playback

variable {binding : Option Binding}

/-- The instant is not after the deadline of the identity, nor will it be: the identity is
not admitted again, and a renewal reaches further. -/
structure Beyond (id : Uuid) (instant : Time) (s : Store) : Prop where
  barred : Barred id s
  ahead : instant ≤ s.clock + 60 * second
  stored : ∀ row, s.reservations.find id = some row → instant ≤ row.deadline

variable {id : Uuid}

/-- A step keeps a reservation's deadline or sets it to a minute from the clock. -/
theorem Step.deadline (step : Step s s')
    (before : s.reservations.find id = some old) (after : s'.reservations.find id = some new) :
    new.deadline = old.deadline ∨ new.deadline = s.clock + 60 * second := by
  cases step with
  | reserve admission | promote admission =>
    have absent := admission.absent
    grind
  | revise revision | release revision =>
    have found := revision.found
    have deadline := revision.deadline
    grind
  | expire => grind
  | _ =>
    cases before.symm.trans after
    exact .inl rfl

theorem Beyond.step {instant : Time} {s s' : Store} (beyond : Beyond id instant s)
    (step : Step s s') : Beyond id instant s' := by
  refine ⟨beyond.barred.step step, beyond.ahead.trans (Int.add_le_add_right step.clock _), ?_⟩
  intro new after
  cases before : s.reservations.find id with
  | none =>
    rw [beyond.barred.absent step before] at after
    cases after
  | some old =>
    rcases step.deadline before after with kept | renewed
    · exact kept ▸ beyond.stored old before
    · exact renewed ▸ beyond.ahead

theorem beyond_invariant (id : Uuid) (instant : Time) : Invariant (Beyond id instant) :=
  .of_steps (fun _ _ _ step beyond => beyond.step step) fun _ _ _ beyond =>
    ⟨⟨beyond.barred.used, beyond.barred.known⟩, beyond.ahead, beyond.stored⟩

/-- What a receipt leaves of the minute, counted from before the transaction. -/
theorem Granted.beyond (granted : Granted id receipt s s') (promotions : Promotions s') (earlier : began ≤ s.clock) :
    Beyond id (began + (receipt.deadline - receipt.observedAt)) s' := by
  obtain ⟨row, stored, same⟩ := granted.stored
  have bound : began + (receipt.deadline - receipt.observedAt) ≤ receipt.deadline := by
    have since : began ≤ receipt.observedAt := earlier.trans granted.since
    calc began + (receipt.deadline - receipt.observedAt)
        ≤ receipt.observedAt + (receipt.deadline - receipt.observedAt) := Int.add_le_add_right since _
      _ = receipt.deadline := add_sub_cancel _ _
  refine ⟨promotions.barred (by simp [stored]), bound.trans granted.ahead, ?_⟩
  intro other found
  cases stored.symm.trans found
  exact same ▸ bound

/-- A receipt that is answered is what the transaction has come to. -/
theorem yields_receipt {sys : System} {tx : Tx Receipt} (answered : (sys.perform tx .receipt).1 = .receipt receipt) :
    Transaction.Yields tx sys.store receipt (sys.perform tx .receipt).2.store := by
  rcases attempt_cases sys tx .receipt fun _ works => works with ⟨made, s', ran, eq⟩ | ⟨failure, -, eq⟩
  · rw [System.perform, eq] at answered ⊢
    cases answered
    exact ran
  · rw [System.perform, eq] at answered
    cases answered

theorem claim_granted {insert : Bool}
    (answered : (step digest sys ⟨elapsed, .claim instanceId request insert binding authority⟩).1 =
      .receipt receipt) (fresh : receipt.fresh = true) :
    Granted request.id receipt sys.store
      (step digest sys ⟨elapsed, .claim instanceId request insert binding authority⟩).2.store :=
  (((claim_commits (yields_receipt answered)).2.2 fresh).2).ticked le_rfl

theorem check_granted (answered : (step digest sys ⟨elapsed, .check instanceId request true binding authority⟩).1 =
      .receipt receipt) :
    Granted request.id receipt sys.store
      (step digest sys ⟨elapsed, .check instanceId request true binding authority⟩).2.store :=
  ((check_commits (yields_receipt answered)).2.2 rfl).ticked le_rfl

end Duskcue.Playback

namespace Duskcue.AdmissionOwner
open Playback (Uuid Time Request Binding Receipt Reply AdmissionError System Store Invariant Admissible
  Beyond ConfigurationResponse)

variable {digest : ConfigurationResponse → Option String}

/-! ## The database under a move -/

/-- What a move of the owner does to the database: nothing, a transaction, or time. -/
inductive Progress (digest : ConfigurationResponse → Option String) (db : System) : System → Prop
  | rest : Progress digest db db
  | move (move : Playback.Move) : Progress digest db (Playback.next digest db move)
  | wait (time : Nat) : Progress digest db
      { db with store := { db.store with clock := db.store.clock + time } }

theorem later_clock (s : Store) (time : Nat) : Playback.Ticked s { s with clock := s.clock + time } := by
  refine ⟨s.clock + time, s.ticks, ?_, rfl⟩
  exact Int.le_add_of_nonneg_right (Int.natCast_nonneg time)

theorem Progress.keeps (progress : Progress digest db db')
    (invariant : Invariant inv) (sound : Playback.Sound db) (holds : inv db.store) : inv db'.store := by
  cases progress with
  | rest => exact holds
  | move move => exact invariant.next sound holds move
  | wait time =>
    have evolves : Playback.Evolves db.store.directory db.store _ := .inl (later_clock db.store time)
    exact invariant.evolves sound.settled trivial evolves holds

theorem Progress.admissible (progress : Progress digest db db') (admissible : Admissible db) : Admissible db' := by
  cases progress with
  | rest => exact admissible
  | move move => exact admissible.next move
  | wait time =>
    have evolves : Playback.Evolves db.store.directory db.store _ := .inl (later_clock db.store time)
    exact ⟨(admissible.sound.advances evolves).sound,
      Playback.promotions_invariant.evolves admissible.sound.settled trivial evolves admissible.promotions⟩

theorem clock_invariant (instant : Time) : Invariant fun s => instant ≤ s.clock :=
  .of_steps (fun _ _ _ step earlier => earlier.trans step.clock) fun _ _ _ earlier => earlier

theorem exchange_progress (db : System) (action : Playback.Action) (input : Input) :
    Progress digest db (exchange digest db action input).2 := by
  unfold exchange
  dsimp only
  split
  · exact .rest
  · exact .move ⟨input.elapsed, action⟩
  · exact .move ⟨input.elapsed, action⟩
  · split
    · exact .move ⟨input.elapsed, action⟩
    · exact .rest

/-- A receipt comes back from a transaction that was committed and answered. -/
theorem exchange_receipt (answered : receipted (exchange digest db action input).1 = .ok receipt) :
    (Playback.step digest db ⟨input.elapsed, action⟩).1 = .receipt receipt ∧
      (exchange digest db action input).2 = (Playback.step digest db ⟨input.elapsed, action⟩).2 := by
  unfold exchange at answered ⊢
  dsimp only at answered ⊢
  split at answered
  · cases answered
  · cases reply : (Playback.step digest db ⟨input.elapsed, action⟩).1 with
    | receipt =>
      rw [reply] at answered
      cases answered
      exact ⟨rfl, by simp_all⟩
    | _ =>
      rw [reply] at answered
      cases answered
  · cases answered
  · cases answered

/-! ## The invariant -/

/-- A factory that has returned. -/
def Factory.returned : Factory → Bool
  | .finished _ => true
  | _ => false

/-- The instant of the process clock is not after the deadline of the identity. -/
def Within (w : World) (id : Uuid) (instant : Time) : Prop := Beyond id (instant + w.offset) w.db.store

/-- The entry of a task is one of its identity. -/
def Attends (w : World) (handle : Handle) (id : Uuid) : Prop :=
  ∃ entry, w.objects.find handle = some entry ∧ entry.request.id = id

/-- What holds of a task of `enqueue`. -/
def StartPhase.Sound (w : World) (id : Uuid) (handle : Handle) : StartPhase → Prop
  | .claiming began => began + w.offset ≤ w.db.store.clock
  | .claimed began result => ∀ receipt, result = .ok receipt → receipt.fresh = true →
      Within w id (localDeadline began receipt)
  | .installed => ∀ entry, w.objects.find handle = some entry → entry.deadline.isSome = true
  | _ => True

def CheckPhase.Sound (w : World) (id : Uuid) (renew : Bool) : CheckPhase → Prop
  | .checking began => began + w.offset ≤ w.db.store.clock
  | .checked began result => ∀ receipt, result = .ok receipt → renew = true →
      Within w id (localDeadline began receipt)
  | _ => True

def ResourcePhase.Sound (w : World) (entry : Entry) (factory : Factory) : ResourcePhase → Prop
  | .waiting expires _ => Within w entry.request.id expires
  | .stopping | .awaiting .. => entry.cancelled = true
  | .spawned | .looping _ => True
  | _ => factory.returned = true

def Task.Sound (w : World) : Task → Prop
  | .start request _ handle _ phase => Attends w handle request.id ∧ phase.Sound w request.id handle
  | .check request renew handle phase => Attends w handle request.id ∧ phase.Sound w request.id renew
  | .resource handle factory phase => ∃ entry, w.objects.find handle = some entry ∧
      entry.deadline.isSome = true ∧ phase.Sound w entry factory
  | _ => True

/-- Every instant a world counts down to is within the deadline of its reservation. -/
structure Bounded (w : World) : Prop where
  admissible : Admissible w.db
  keys : ∀ id handle, w.entries.find id = some handle → Attends w handle id
  installed : ∀ handle entry instant, w.objects.find handle = some entry →
    entry.deadline = some instant → Within w entry.request.id instant
  tasks : ∀ id task, w.tasks.find id = some task → task.Sound w

/-- How a world goes on: the database moves, and an entry keeps its request, its deadline
once it has one and its cancellation. -/
structure Grows (digest : ConfigurationResponse → Option String) (w w' : World) : Prop where
  progress : Progress digest w.db w'.db
  offset : w'.offset = w.offset
  entries : ∀ handle entry, w.objects.find handle = some entry → ∃ entry',
    w'.objects.find handle = some entry' ∧ entry'.request = entry.request ∧
      (entry.deadline.isSome = true → entry'.deadline.isSome = true) ∧
      (entry.cancelled = true → entry'.cancelled = true)

section
variable {w w' : World}

theorem Within.grows {id : Uuid} (within : Within w id instant)
    (grows : Grows digest w w') (admissible : Admissible w.db) : Within w' id instant := by
  unfold Within at within ⊢
  rw [grows.offset]
  exact grows.progress.keeps (Playback.beyond_invariant id _) admissible.sound within

theorem Attends.grows {id : Uuid} (attends : Attends w handle id)
    (grows : Grows digest w w') : Attends w' handle id := by
  obtain ⟨entry, found, named⟩ := attends
  obtain ⟨entry', found', same, -⟩ := grows.entries handle entry found
  exact ⟨entry', found', same ▸ named⟩

variable {task : Task}

theorem Task.Sound.grows (sound : task.Sound w) (grows : Grows digest w w')
    (admissible : Admissible w.db) : task.Sound w' := by
  have clock : ∀ began, began + w.offset ≤ w.db.store.clock → began + w'.offset ≤ w'.db.store.clock := by
    intro began earlier
    rw [grows.offset]
    exact grows.progress.keeps (clock_invariant _) admissible.sound earlier
  cases task with
  | start _ _ handle _ phase =>
    obtain ⟨attends, sound⟩ := sound
    refine ⟨attends.grows grows, ?_⟩
    cases phase with
    | claiming began => exact clock began sound
    | claimed =>
      intro receipt made fresh
      exact (sound receipt made fresh).grows grows admissible
    | installed =>
      intro entry' found'
      obtain ⟨entry, found, -⟩ := attends
      obtain ⟨_, same, -, deadline, -⟩ := grows.entries handle entry found
      cases same.symm.trans found'
      exact deadline (sound entry found)
    | _ => trivial
  | check _ _ _ phase =>
    obtain ⟨attends, sound⟩ := sound
    refine ⟨attends.grows grows, ?_⟩
    cases phase with
    | checking began => exact clock began sound
    | checked =>
      intro receipt made renews
      exact (sound receipt made renews).grows grows admissible
    | spawned => trivial
  | resource handle _ phase =>
    obtain ⟨entry, found, some_, sound⟩ := sound
    obtain ⟨entry', found', same, deadline, cancelled⟩ := grows.entries handle entry found
    refine ⟨entry', found', deadline some_, ?_⟩
    cases phase with
    | waiting expires =>
      have within : Within w entry'.request.id expires := same ▸ sound
      exact within.grows grows admissible
    | stopping | awaiting => exact cancelled sound
    | _ => exact sound
  | _ => trivial

/-- A world that has gone on is bounded where its new deadlines and tasks are. -/
theorem Bounded.grows (bounded : Bounded w) (grows : Grows digest w w')
    (keys : ∀ id handle, w'.entries.find id = some handle → Attends w' handle id)
    (installed : ∀ handle entry' instant, w'.objects.find handle = some entry' →
      entry'.deadline = some instant → Within w' entry'.request.id instant ∨
        ∃ entry, w.objects.find handle = some entry ∧ entry.request = entry'.request ∧
          entry.deadline = some instant)
    (tasks : ∀ id task, w'.tasks.find id = some task → w.tasks.find id = some task ∨ task.Sound w') :
    Bounded w' where
  admissible := grows.progress.admissible bounded.admissible
  keys := keys
  installed := by
    intro handle entry' instant found deadline
    rcases installed handle entry' instant found deadline with within | ⟨entry, found, same, deadline⟩
    · exact within
    · exact same ▸ (bounded.installed handle entry instant found deadline).grows grows bounded.admissible
  tasks := by
    intro id task found
    rcases tasks id task found with found | sound
    · exact (bounded.tasks id task found).grows grows bounded.admissible
    · exact sound

/-! ## What the parts of a step keep -/

theorem World.find_setEntry (w : World) (handle : Handle) (f : Entry → Entry) (other : Handle) :
    (w.setEntry handle f).objects.find other =
      (w.objects.find other).map fun entry => if other = handle then f entry else entry :=
  Table.find_amend ..

theorem World.setEntry_entry (found : (w.setEntry handle f).objects.find other = some entry') :
    ∃ entry, w.objects.find other = some entry ∧
      entry' = if other = handle then f entry else entry := by
  rw [World.find_setEntry] at found
  obtain ⟨entry, found, same⟩ := Option.map_eq_some_iff.mp found
  exact ⟨entry, found, same.symm⟩

theorem World.find_setEntry_self (found : w.objects.find handle = some entry) :
    (w.setEntry handle f).objects.find handle = some (f entry) := by
  rw [World.find_setEntry, found]
  simp

/-- Writing entries without losing what they have. -/
theorem Grows.amend {f : Handle → Entry → Entry} (objects : w'.objects = w.objects.amend f) (db : w'.db = w.db)
    (offset : w'.offset = w.offset) (request : ∀ handle entry, (f handle entry).request = entry.request)
    (deadline : ∀ handle entry, entry.deadline.isSome = true → (f handle entry).deadline.isSome = true)
    (cancelled : ∀ handle entry, entry.cancelled = true → (f handle entry).cancelled = true) : Grows digest w w' where
  progress := db ▸ .rest
  offset := offset
  entries handle entry found := ⟨f handle entry, by rw [objects, Table.find_amend, found, Option.map_some],
    request handle entry, deadline handle entry, cancelled handle entry⟩

theorem Attends.setEntry {id : Uuid}
    (attends : Attends w handle id) (request : ∀ entry, (f entry).request = entry.request) :
    Attends (w.setEntry other f) handle id := by
  obtain ⟨entry, found, named⟩ := attends
  refine ⟨_, (w.find_setEntry ..).trans (by rw [found]; rfl), ?_⟩
  split
  · rw [request entry, named]
  · exact named

/-- The answer a task is about to install: the entry, the receipt and the deadline by it. -/
def Task.answer : Task → Option (Handle × Receipt × Time)
  | .start _ _ handle true (.claimed began (.ok receipt)) =>
    if receipt.fresh && receipt.state = .held then
      some (handle, receipt, localDeadline began receipt)
    else none
  | .check _ true handle (.checked began (.ok receipt)) =>
    some (handle, receipt, localDeadline began receipt)
  | _ => none

/-- No task is given an answer, and no entry a deadline. -/
structure Calm (w w' : World) : Prop where
  answers : ∀ id task, w'.tasks.find id = some task → w.tasks.find id = some task ∨ task.answer = none
  deadlines : ∀ handle entry', w'.objects.find handle = some entry' → entry'.deadline = none ∨
    ∃ entry, w.objects.find handle = some entry ∧ entry.deadline = entry'.deadline

theorem Calm.trans (first : Calm w middle) (second : Calm middle w') : Calm w w' where
  answers := by
    intro id task found
    rcases second.answers id task found with before | quiet
    · exact first.answers id task before
    · exact .inr quiet
  deadlines := by
    intro handle entry' found
    rcases second.deadlines handle entry' found with empty | ⟨entry, before, same⟩
    · exact .inl empty
    · rcases first.deadlines handle entry before with empty | ⟨original, known, kept⟩
      · exact .inl (same ▸ empty)
      · exact .inr ⟨original, known, kept.trans same⟩

theorem Calm.become (w : World) (id : Nat) (quiet : task.answer = none) : Calm w (w.become id task) := by
  refine ⟨fun other task' found => ?_, fun _ entry found => .inr ⟨entry, found, rfl⟩⟩
  rw [World.become, Table.find_put] at found
  split at found
  · cases found
    exact .inr quiet
  · exact .inl found

theorem Calm.finish (w : World) (id : Nat) : Calm w (w.finish id) :=
  ⟨fun _ _ found => .inl (Table.find_of_remove found), fun _ entry found => .inr ⟨entry, found, rfl⟩⟩

/-- The world is bounded still, and nothing was answered or installed. -/
structure Quiet (w w' : World) : Prop extends Calm w w' where
  bounded : Bounded w'

section
variable (bounded : Bounded w)
include bounded

theorem Bounded.quiet : Quiet w w :=
  ⟨⟨fun _ _ => .inl, fun _ entry found => .inr ⟨entry, found, rfl⟩⟩, bounded⟩

/-- Flags of entries. -/
theorem Bounded.amend {f : Handle → Entry → Entry} (objects : w'.objects = w.objects.amend f) (db : w'.db = w.db)
    (offset : w'.offset = w.offset) (entries : w'.entries = w.entries) (tasks : w'.tasks = w.tasks)
    (request : ∀ handle entry, (f handle entry).request = entry.request)
    (deadline : ∀ handle entry, (f handle entry).deadline = entry.deadline)
    (cancelled : ∀ handle entry, entry.cancelled = true → (f handle entry).cancelled = true) : Quiet w w' := by
  have grows : Grows (fun _ => none) w w' :=
    .amend objects db offset request (fun handle entry => by rw [deadline handle entry]; exact id) cancelled
  have old : ∀ handle entry', w'.objects.find handle = some entry' → ∃ entry, w.objects.find handle = some entry ∧
      entry.request = entry'.request ∧ entry.deadline = entry'.deadline := by
    intro handle entry' found
    rw [objects, Table.find_amend] at found
    obtain ⟨entry, before, rfl⟩ := Option.map_eq_some_iff.mp found
    exact ⟨entry, before, (request handle entry).symm, (deadline handle entry).symm⟩
  refine ⟨⟨fun _ _ found => .inl (tasks ▸ found), fun handle entry' found => ?_⟩, bounded.grows grows
    (fun id handle found => (bounded.keys id handle (entries ▸ found)).grows grows) (fun handle entry' instant found expires => ?_)
    fun _ _ found => .inl (tasks ▸ found)⟩
  · obtain ⟨entry, before, -, same⟩ := old handle entry' found
    exact .inr ⟨entry, before, same⟩
  · obtain ⟨entry, before, own, same⟩ := old handle entry' found
    exact .inr ⟨entry, before, own, same.trans expires⟩

theorem Bounded.setEntry (handle : Handle)
    (request : ∀ entry, (f entry).request = entry.request) (deadline : ∀ entry, (f entry).deadline = entry.deadline)
    (cancelled : ∀ entry, entry.cancelled = true → (f entry).cancelled = true) : Quiet w (w.setEntry handle f) := by
  refine bounded.amend (f := fun h entry => if h = handle then f entry else entry) rfl rfl rfl rfl rfl
    (fun h entry => ?_) (fun h entry => ?_) fun h entry there => ?_
  · split
    · exact request entry
    · rfl
  · split
    · exact deadline entry
    · rfl
  · split
    · exact cancelled entry there
    · exact there

theorem Bounded.cancel (handle : Handle) : Quiet w (w.setEntry handle .cancel) :=
  bounded.setEntry handle (fun _ => rfl) (fun _ => rfl) fun _ _ => rfl

/-- A deadline within that of the reservation. -/
theorem Bounded.install {id : Uuid}
    (attends : Attends w handle id) (within : Within w id instant) :
    Bounded (w.setEntry handle fun entry => entry.install instant) := by
  have grows : Grows (fun _ => none) w (w.setEntry handle fun entry => entry.install instant) := by
    refine .amend (f := fun h entry => if h = handle then entry.install instant else entry) rfl rfl rfl
      (fun h entry => ?_) (fun h entry there => ?_) fun h entry there => ?_
    all_goals
      split
      · first | rfl | exact there
      · first | rfl | exact there
  refine bounded.grows grows (fun id h found => (bounded.keys id h found).grows grows) ?_
    fun _ _ => .inl
  intro other entry' expires found deadline
  obtain ⟨entry, before, rfl⟩ := World.setEntry_entry found
  by_cases same : other = handle
  · subst same
    simp only [if_true, Entry.install, Option.some.injEq] at deadline ⊢
    obtain ⟨known, there, named⟩ := attends
    cases there.symm.trans before
    exact .inl (deadline ▸ named ▸ within)
  · simp only [if_neg same] at deadline ⊢
    exact .inr ⟨entry, before, rfl, deadline⟩

/-- What touches no entry: the tasks it leaves are old ones or hold. -/
theorem Bounded.elsewhere (progress : Progress digest w.db w'.db)
    (offset : w'.offset = w.offset) (objects : w'.objects = w.objects)
    (entries : ∀ id handle, w'.entries.find id = some handle → w.entries.find id = some handle)
    (tasks : ∀ id task, w'.tasks.find id = some task → w.tasks.find id = some task ∨ task.Sound w') :
    Bounded w' := by
  have grows : Grows digest w w' :=
    ⟨progress, offset, fun _ entry found => ⟨entry, objects ▸ found, rfl, id, id⟩⟩
  refine bounded.grows grows (fun id h found => (bounded.keys id h (entries id h found)).grows grows) ?_ tasks
  intro handle entry instant found deadline
  exact .inr ⟨entry, objects ▸ found, rfl, deadline⟩

/-- The database moves, flags of the owner change, or keys leave the gate map. -/
theorem Bounded.aside (progress : Progress digest w.db w'.db)
    (offset : w'.offset = w.offset) (objects : w'.objects = w.objects) (tasks : w'.tasks = w.tasks)
    (entries : ∀ id handle, w'.entries.find id = some handle → w.entries.find id = some handle) : Quiet w w' :=
  ⟨⟨fun _ _ found => .inl (tasks ▸ found), fun _ entry found => .inr ⟨entry, objects ▸ found, rfl⟩⟩,
    bounded.elsewhere progress offset objects entries fun _ _ found => .inl (tasks ▸ found)⟩

theorem Bounded.remove (id : Uuid) : Quiet w (w.remove id) := by
  have progress : Progress (fun _ => none) w.db (w.remove id).db := .rest
  exact bounded.aside progress rfl rfl rfl fun _ _ => Table.find_of_remove

theorem Bounded.flags (closed failed maintenanceLost : Bool) (monitor : Monitor) (scan : Nat) :
    Quiet w { w with closed, failed, maintenanceLost, monitor, scan } := by
  have progress : Progress (fun _ => none) w.db w.db := .rest
  exact bounded.aside progress rfl rfl rfl fun _ _ found => found

theorem Bounded.fail : Quiet w w.fail := bounded.flags w.closed true w.maintenanceLost w.monitor w.scan

theorem Bounded.ask (action : Playback.Action) (input : Input) : Quiet w (w.ask digest action input).2 :=
  bounded.aside (exchange_progress w.db action input) rfl rfl rfl fun _ _ there => there

theorem Bounded.finish (id : Nat) : Quiet w (w.finish id) := by
  have progress : Progress (fun _ => none) w.db (w.finish id).db := .rest
  exact ⟨.finish w id, bounded.elsewhere progress rfl rfl (fun _ _ there => there) fun _ _ found =>
    .inl (Table.find_of_remove found)⟩

theorem Bounded.become (id : Nat) (sound : task.Sound w) : Bounded (w.become id task) := by
  have progress : Progress (fun _ => none) w.db (w.become id task).db := .rest
  have grows : Grows (fun _ => none) w (w.become id task) :=
    ⟨progress, rfl, fun _ entry found => ⟨entry, found, rfl, fun there => there, fun there => there⟩⟩
  refine bounded.elsewhere progress rfl rfl (fun _ _ there => there) fun other task' found => ?_
  rw [World.become, Table.find_put] at found
  split at found
  · cases found
    exact .inr (sound.grows grows bounded.admissible)
  · exact .inl found

end

theorem Quiet.trans (first : Quiet w middle) (second : Bounded middle → Quiet middle w') : Quiet w w' :=
  have after := second first.bounded
  ⟨first.toCalm.trans after.toCalm, after.bounded⟩

theorem Quiet.become (quiet : Quiet w middle) (id : Nat) (sound : task.Sound middle) (none : task.answer = none) :
    Quiet w (middle.become id task) :=
  quiet.trans fun bounded => ⟨.become middle id none, bounded.become id sound⟩

theorem Quiet.finish (quiet : Quiet w middle) (id : Nat) : Quiet w (middle.finish id) :=
  quiet.trans fun bounded => bounded.finish id

theorem Quiet.spawn (quiet : Quiet w middle) (sound : task.Sound middle) (none : task.answer = none) :
    Quiet w (middle.spawn task) :=
  quiet.become middle.tasks.unused sound none

/-! ## Answers -/

variable {request : Request}

/-- A grant leaves the process no more than the database does. -/
theorem within_of_granted (granted : Playback.Granted request.id receipt w.db.store w'.db.store)
    (promotions : Playback.Promotions w'.db.store) (offset : w'.offset = w.offset)
    (earlier : began + w.offset ≤ w.db.store.clock) :
    Within w' request.id (localDeadline began receipt) := by
  have whole : 0 ≤ receipt.deadline - receipt.observedAt := by
    have minute : (0 : Time) ≤ 60 * Playback.second := by decide
    exact sub_nonneg.mpr ((le_add_of_nonneg_right minute).trans granted.whole)
  have beyond := granted.beyond promotions earlier
  have shift : localDeadline began receipt + w'.offset =
      began + w.offset + (receipt.deadline - receipt.observedAt) := by
    rw [localDeadline, max_eq_left whole, offset, add_right_comm]
  rw [Within, shift]
  exact beyond

/-- The receipt carries the deadline that the reservation of the entry has now, and the
instant is not after it. -/
def Returned (w : World) (handle : Handle) (receipt : Receipt) (instant : Time) : Prop :=
  ∃ entry row, w.objects.find handle = some entry ∧
    w.db.store.reservations.find entry.request.id = some row ∧ row.deadline = receipt.deadline ∧
    instant + w.offset ≤ row.deadline

/-- So does the answer to a transaction that grants. -/
theorem ask_within (bounded : Bounded w) (attends : Attends w handle request.id)
    (earlier : began + w.offset ≤ w.db.store.clock)
    (answered : receipted (w.ask digest action input).1 = .ok receipt)
    (grants : (Playback.step digest w.db ⟨input.elapsed, action⟩).1 = .receipt receipt →
      Playback.Granted request.id receipt w.db.store (Playback.step digest w.db ⟨input.elapsed, action⟩).2.store) :
    Within (w.ask digest action input).2 request.id (localDeadline began receipt) ∧
      Returned (w.ask digest action input).2 handle receipt (localDeadline began receipt) := by
  have answered : receipted (exchange digest w.db action input).1 = .ok receipt := answered
  obtain ⟨reply, committed⟩ := exchange_receipt answered
  have asked : Bounded (w.ask digest action input).2 := (bounded.ask action input).bounded
  have db : (w.ask digest action input).2.db = (Playback.step digest w.db ⟨input.elapsed, action⟩).2 :=
    committed
  have granted := grants reply
  rw [← db] at granted
  have within : Within (w.ask digest action input).2 request.id (localDeadline began receipt) :=
    within_of_granted granted asked.admissible.promotions rfl earlier
  obtain ⟨entry, found, named⟩ := attends
  obtain ⟨row, there, same⟩ := granted.stored
  exact ⟨within, entry, row, found, named ▸ there, same, within.stored row there⟩

/-! ## Steps -/

/-- A task is given an answer by the step of its own transaction, and an entry a deadline by
the step after that. -/
inductive Turn (w : World) : Move → World → Prop
  | calm {move : Move} {w' : World} (quiet : Quiet w w') : Turn w move w'
  | answered {move : Move} {w' : World} (id : Nat) (task : Task) (bounded : Bounded w') (objects : w'.objects = w.objects)
      (tasks : w'.tasks = w.tasks.put id task)
      (returned : ∀ handle receipt instant, task.answer = some (handle, receipt, instant) →
        Returned w' handle receipt instant) : Turn w move w'
  | installed {id : Nat} {input : Input} {task : Task} {handle : Handle} {receipt : Receipt}
      {instant : Time} {w' : World} (running : w.tasks.find id = some task)
      (answer : task.answer = some (handle, receipt, instant))
      (quiet : Quiet (w.setEntry handle fun entry => entry.install instant) w') :
    Turn w (.task id input) w'

theorem Turn.bounded (turn : Turn w move w') : Bounded w' := by
  cases turn with
  | calm quiet | installed _ _ quiet => exact quiet.bounded
  | answered _ _ bounded => exact bounded

section
variable {id : Nat} (bounded : Bounded w)
include bounded

omit bounded in
theorem claimed_answer
    (holds : (Task.start request binding handle inserted (.claimed began result)).answer = some (other, receipt, instant)) :
    other = handle ∧ receipt.fresh = true ∧ result = .ok receipt ∧ instant = localDeadline began receipt := by
  cases inserted with
  | false => simp [Task.answer] at holds
  | true =>
    cases result with
    | error => simp [Task.answer] at holds
    | ok =>
      simp only [Task.answer] at holds
      split at holds
      · rename_i held
        cases holds
        exact ⟨rfl, (Bool.and_eq_true_iff.mp held).1, rfl, rfl⟩
      · cases holds

omit bounded in
theorem checked_answer
    (holds : (Task.check request renew handle (.checked began result)).answer = some (other, receipt, instant)) :
    other = handle ∧ renew = true ∧ result = .ok receipt ∧ instant = localDeadline began receipt := by
  cases renew with
  | false => simp [Task.answer] at holds
  | true =>
    cases result with
    | error => simp [Task.answer] at holds
    | ok =>
      cases holds
      exact ⟨rfl, rfl, rfl, rfl⟩

theorem stepStart_turn
    (running : w.tasks.find id = some (.start request binding handle inserted phase)) (input : Input) :
    Turn w (.task id input) (w.stepStart digest id request binding handle inserted input phase) := by
  obtain ⟨attends, sound⟩ := bounded.tasks id _ running
  have settles : ∀ {middle : World}, Quiet w middle → Attends middle handle request.id →
      Quiet w (middle.become id (.start request binding handle inserted .settled)) :=
    fun quiet attends => quiet.become id ⟨attends, trivial⟩ (by simp [Task.answer])
  cases phase with
  | spawned =>
    exact .calm (bounded.quiet.become id ⟨attends, (sub_add_cancel _ _).le⟩ (by simp [Task.answer]))
  | claiming =>
    simp only [World.stepStart]
    have asked : Bounded (w.ask digest (.claim w.owner request inserted binding input.authority) input).2 :=
      (bounded.ask _ input).bounded
    refine .answered id _ (asked.become id ⟨attends, fun receipt answered fresh => ?_⟩) rfl rfl ?_
    · exact (ask_within bounded attends sound answered fun reply => Playback.claim_granted reply fresh).1
    · intro other receipt instant holds
      obtain ⟨rfl, fresh, answered, rfl⟩ := claimed_answer holds
      exact (ask_within bounded attends sound answered fun reply => Playback.claim_granted reply fresh).2
  | claimed began result =>
    simp only [World.stepStart]
    split
    · exact .calm (bounded.finish id)
    · rename_i old
      obtain rfl : inserted = true := by simpa using old
      split
      · rename_i receipt
        split
        · rename_i held
          have fresh : receipt.fresh = true := (Bool.and_eq_true_iff.mp held).1
          have installed := bounded.install attends (sound receipt rfl fresh)
          refine .installed running (by rw [Task.answer, if_pos held]) (installed.quiet.become id ⟨attends.setEntry fun _ => rfl, ?_⟩ rfl)
          intro entry' found'
          obtain ⟨_, -, rfl⟩ := World.setEntry_entry found'
          simp [Entry.install]
        · exact .calm (settles (bounded.remove request.id) attends)
      · exact .calm (settles (bounded.cancel handle) (attends.setEntry fun _ => rfl))
      · exact .calm (settles (bounded.remove request.id) attends)
  | installed =>
    simp only [World.stepStart]
    split
    · exact .calm bounded.quiet
    · rename_i entry found
      split
      · have flagged : Quiet w (w.setEntry handle fun e => { e with attached := true }) :=
          bounded.setEntry handle (fun _ => rfl) (fun _ => rfl) fun _ there => there
        refine .calm ((settles flagged (attends.setEntry fun _ => rfl)).spawn
          ⟨_, (w.find_setEntry ..).trans (by rw [found]; rfl), ?_, trivial⟩ rfl)
        simpa using sound entry found
      · exact .calm (settles (bounded.cancel handle) (attends.setEntry fun _ => rfl))
  | settled =>
    have flagged : Quiet w (w.setEntry handle fun e => { e with pending := false }) :=
      bounded.setEntry handle (fun _ => rfl) (fun _ => rfl) fun _ there => there
    exact .calm (flagged.finish id)

theorem stepCheck_turn
    (running : w.tasks.find id = some (.check request renew handle phase)) (input : Input) :
    Turn w (.task id input) (w.stepCheck digest id request renew handle input phase) := by
  obtain ⟨attends, sound⟩ := bounded.tasks id _ running
  cases phase with
  | spawned =>
    exact .calm (bounded.quiet.become id ⟨attends, (sub_add_cancel _ _).le⟩ (by simp [Task.answer]))
  | checking =>
    simp only [World.stepCheck]
    split
    · exact .calm bounded.quiet
    · rename_i entry _
      have asked : Bounded (w.ask digest (.check w.owner request renew entry.binding input.authority) input).2 :=
        (bounded.ask _ input).bounded
      refine .answered id _ (asked.become id ⟨attends, ?_⟩) rfl rfl ?_
      · rintro receipt answered rfl
        exact (ask_within bounded attends sound answered fun reply => Playback.check_granted reply).1
      · intro other receipt instant holds
        obtain ⟨rfl, rfl, answered, rfl⟩ := checked_answer holds
        exact (ask_within bounded attends sound answered fun reply => Playback.check_granted reply).2
  | checked began result =>
    cases result with
    | ok receipt =>
      cases renew with
      | true => exact .installed running rfl ((bounded.install attends (sound receipt rfl rfl)).finish id)
      | false => exact .calm (bounded.finish id)
    | error => exact .calm ((bounded.cancel handle).finish id)

theorem stepVisit_quiet (handle : Handle) (entry : Entry) (input : Input) (phase : VisitPhase) :
    Quiet w (w.stepVisit digest id handle entry input phase) := by
  cases phase with
  | spawned | judging => exact bounded.quiet.become id trivial rfl
  | checking =>
    simp only [World.stepVisit]
    exact (bounded.ask _ input).become id trivial rfl
  | checked ok =>
    cases ok with
    | false => exact (bounded.cancel handle).become id trivial rfl
    | true => exact bounded.quiet.become id trivial rfl
  | retiring | releasing =>
    simp only [World.stepVisit, World.retire]
    exact (bounded.ask _ input).become id trivial rfl
  | retired ok =>
    cases ok with
    | false => exact bounded.fail.become id trivial rfl
    | true => exact bounded.quiet.become id trivial rfl
  | removing => exact (bounded.remove _).become id trivial rfl
  | finishing =>
    have flagged : Quiet w (w.setEntry handle fun e => { e with checking := false }) :=
      bounded.setEntry handle (fun _ => rfl) (fun _ => rfl) fun _ there => there
    exact flagged.finish id

theorem stepResource_quiet (running : w.tasks.find id = some (.resource handle factory phase))
    (found : w.objects.find handle = some entry) (input : Input) :
    Quiet w (w.stepResource digest id handle entry factory input phase) := by
  obtain ⟨known, there, some_, sound⟩ := bounded.tasks id _ running
  obtain rfl : known = entry := Option.some.inj (there.symm.trans found)
  -- The task goes on with the entry as it is, or as `f` leaves it.
  have next : ∀ {middle : World} {phase : ResourcePhase} (factory : Factory), Quiet w middle → middle.objects = w.objects →
      phase.Sound middle known factory → Quiet w (middle.become id (.resource handle factory phase)) :=
    fun factory quiet same sound => quiet.become id ⟨known, same ▸ found, some_, sound⟩ rfl
  have cancels : ∀ {phase : ResourcePhase}, phase.Sound (w.setEntry handle .cancel) known.cancel factory →
      Quiet w ((w.setEntry handle .cancel).become id (.resource handle factory phase)) := fun sound =>
    (bounded.cancel handle).become id ⟨_, World.find_setEntry_self found, some_, sound⟩ rfl
  cases phase with
  | spawned => exact next .running bounded.quiet rfl trivial
  | looping =>
    refine next factory bounded.quiet rfl ?_
    obtain ⟨instant, deadline⟩ := Option.isSome_iff_exists.mp some_
    rw [deadline]
    exact bounded.installed handle known instant found deadline
  | waiting expires seen =>
    have turn : Quiet w (
        if known.cancelled then w.become id (.resource handle factory .stopping)
        else if expires ≤ w.now then
          (w.setEntry handle .cancel).become id (.resource handle factory (.looping seen))
        else if known.version ≠ seen then
          w.become id (.resource handle factory (.looping known.version))
        else w) := by
      split
      · rename_i cancelled
        exact next factory bounded.quiet rfl cancelled
      · split
        · exact cancels trivial
        · split
          · exact next factory bounded.quiet rfl trivial
          · exact bounded.quiet
    cases factory with
    | finished => exact next _ bounded.quiet rfl rfl
    | launched | running => exact turn
  | stopping | failing =>
    simp only [World.stepResource, World.retire]
    exact next factory (bounded.ask _ input) rfl sound
  | awaiting since late =>
    have turn : Quiet w (
        if !late && since + 10 * Playback.second ≤ w.now then
          w.fail.become id (.resource handle factory (.awaiting since true))
        else w) := by
      split
      · exact next factory bounded.fail rfl sound
      · exact bounded.quiet
    cases factory with
    | finished => exact next _ bounded.quiet rfl rfl
    | launched | running => exact turn
  | ended ok =>
    have past : factory.returned = true := sound
    cases ok with
    | false | true => exact cancels past
  | failed => exact next factory bounded.fail rfl sound
  | completing =>
    have flagged : Quiet w (w.setEntry handle fun e => { e with completed := e.binding.isSome }) :=
      bounded.setEntry handle (fun _ => rfl) (fun _ => rfl) fun _ there => there
    exact flagged.become id ⟨_, World.find_setEntry_self found, some_, sound⟩ rfl
  | releasing =>
    simp only [World.stepResource, World.retire]
    have past : factory.returned = true := sound
    have either : ∀ (w' : World) (ok : Bool),
        (if ok = true then ResourcePhase.removing else .failed).Sound w' known factory := by
      intro w' ok
      cases ok with
      | false | true => exact past
    exact next factory (bounded.ask _ input) rfl (either _ _)
  | removing => exact next factory (bounded.remove _) rfl sound
  | quit => exact bounded.quiet

theorem stepDrain_quiet (input : Input) (phase : DrainPhase) : Quiet w (w.stepDrain digest id input phase) := by
  cases phase with
  | waiting =>
    simp only [World.stepDrain]
    split
    · split
      · exact bounded.quiet
      · exact bounded.quiet.become id trivial rfl
    · exact bounded.quiet
  | cleaning rest =>
    cases rest with
    | nil => exact bounded.finish id
    | cons =>
      simp only [World.stepDrain]
      split
      · exact bounded.quiet.become id trivial rfl
      · split
        · simp only [World.retire]
          exact (bounded.ask _ input).become id trivial rfl
        · exact bounded.quiet.become id trivial rfl
  | removing key => exact (bounded.remove key).become id trivial rfl
  | failed => exact bounded.fail.become id trivial rfl

end

/-! ## Commands and the monitor -/

section
variable (bounded : Bounded w)
include bounded

/-- A new entry of an identity is put beside the others. -/
theorem insert_quiet (request : Request) (binding : Option Binding) : Quiet w { w with
    objects := w.objects.put w.objects.unused (.new request binding)
    entries := w.entries.put request.id w.objects.unused } := by
  have old : ∀ handle entry, w.objects.find handle = some entry →
      (w.objects.put w.objects.unused (.new request binding)).find handle = some entry := by
    intro handle entry found
    refine (Table.find_put_ne ?_).trans found
    rintro rfl
    rw [Table.find_unused] at found
    cases found
  have new : ∀ handle entry, (w.objects.put w.objects.unused (.new request binding)).find handle = some entry →
      entry.deadline = none ∨ w.objects.find handle = some entry := by
    intro handle entry found
    rw [Table.find_put] at found
    split at found
    · cases found
      exact .inl rfl
    · exact .inr found
  have grows : Grows (fun _ => none) w { w with
      objects := w.objects.put w.objects.unused (.new request binding)
      entries := w.entries.put request.id w.objects.unused } :=
    ⟨.rest, rfl, fun handle entry found => ⟨entry, old handle entry found, rfl, id, id⟩⟩
  refine ⟨⟨fun _ _ => .inl, fun handle entry found => ?_⟩, bounded.grows grows (fun id handle found => ?_)
    (fun handle entry instant found deadline => ?_) fun _ _ => .inl⟩
  · exact (new handle entry found).imp_right fun before => ⟨entry, before, rfl⟩
  · rw [Table.find_put] at found
    split at found
    · rename_i same
      cases found
      exact ⟨.new request binding, Table.find_put_self .., same.symm⟩
    · exact (bounded.keys id handle found).grows grows
  · rcases new handle entry found with none | before
    · cases none.symm.trans deadline
    · exact .inr ⟨entry, before, rfl, deadline⟩

/-- A start joins the entry of its identity, or makes one. -/
theorem enqueue_quiet (queued : w.enqueue request binding permit = .ok w') : Quiet w w' := by
  unfold World.enqueue at queued
  split at queued
  · cases queued
  · split at queued
    · cases queued
    · split at queued
      · cases queued
      · split at queued
        · rename_i handle found
          split at queued
          · cases queued
          · split at queued
            · cases queued
            · split at queued
              · cases queued
              · cases queued
                exact bounded.quiet.spawn ⟨bounded.keys request.id handle found, trivial⟩ rfl
        · split at queued
          · cases queued
          · cases queued
            have quiet := insert_quiet bounded request binding
            exact quiet.spawn ⟨⟨.new request binding, Table.find_put_self .., rfl⟩, trivial⟩ rfl

theorem queueCheck_quiet (queued : w.queueCheck request renew permit = .ok w') : Quiet w w' := by
  unfold World.queueCheck at queued
  split at queued
  · cases queued
  · split at queued
    · cases queued
    · split at queued
      · cases queued
      · rename_i handle found
        split at queued
        · cases queued
        · split at queued
          · cases queued
          · split at queued
            · cases queued
            · split at queued
              · cases queued
              · cases queued
                exact bounded.quiet.spawn ⟨bounded.keys request.id handle found, trivial⟩ (by simp [Task.answer])

theorem close_quiet : Quiet w w.close := by
  refine bounded.amend (f := fun h entry => if w.entries.holds fun _ handle => handle = h then entry.cancel else entry)
    rfl rfl rfl rfl rfl (fun h entry => ?_) (fun h entry => ?_) fun h entry there => ?_
  all_goals
    split
    · rfl
    · first | rfl | exact there

theorem pass_quiet (permit : Bool) : Quiet w (w.pass permit) := by
  have flag : ∀ handle checking, Quiet w (w.setEntry handle fun e => { e with checking }) :=
    fun handle _ => bounded.setEntry handle (fun _ => rfl) (fun _ => rfl) fun _ there => there
  have moves : ∀ {middle : World} (monitor : Monitor), Quiet w middle → Quiet w { middle with monitor } :=
    fun monitor quiet => quiet.trans fun bounded => bounded.flags _ _ _ monitor _
  unfold World.pass
  split
  · exact moves .idle bounded.quiet
  · rename_i handle rest _
    split
    · exact moves (.passing rest) bounded.quiet
    · split
      · exact moves (.passing rest) bounded.quiet
      · exact moves (.marked handle rest) (flag handle true)
  · rename_i handle rest _
    split
    · exact moves (.passing rest) (flag handle false)
    · split
      · exact moves .idle bounded.quiet
      · have spawned : Quiet w (w.spawn (.visit handle .spawned)) := bounded.quiet.spawn trivial rfl
        exact moves (.passing rest) spawned
  · exact bounded.quiet

theorem next_turn (move : Move) : Turn w move (next digest w move) := by
  cases move with
  | start request binding permit =>
    simp only [next]
    cases queued : w.enqueue request binding permit with
    | error => exact .calm bounded.quiet
    | ok => exact .calm (enqueue_quiet bounded queued)
  | check request renew permit =>
    simp only [next]
    cases queued : w.queueCheck request renew permit with
    | error => exact .calm bounded.quiet
    | ok => exact .calm (queueCheck_quiet bounded queued)
  | stop =>
    simp only [next, World.stop]
    split
    · exact .calm bounded.quiet
    · exact .calm (bounded.cancel _)
  | close => exact .calm (close_quiet bounded)
  | drain => exact .calm (bounded.quiet.spawn trivial rfl)
  | loseMaintenance => exact .calm (bounded.flags w.closed w.failed true w.monitor w.scan)
  | beginPass =>
    simp only [next, World.beginPass]
    split
    · split
      · exact .calm (bounded.flags w.closed w.failed w.maintenanceLost .ended w.scan)
      · split
        · exact .calm bounded.quiet
        · exact .calm (bounded.flags w.closed w.failed w.maintenanceLost _ _)
    · exact .calm bounded.quiet
  | pass permit => exact .calm (pass_quiet bounded permit)
  | task id input =>
    simp only [next, World.stepTask]
    split
    · exact .calm bounded.quiet
    · exact stepStart_turn bounded ‹_› input
    · exact stepCheck_turn bounded ‹_› input
    · split
      · exact .calm bounded.quiet
      · exact .calm (stepVisit_quiet bounded ..)
    · rename_i running
      split
      · exact .calm bounded.quiet
      · exact .calm (stepResource_quiet bounded running ‹_› input)
    · exact .calm (stepDrain_quiet bounded ..)
  | factory id =>
    simp only [next]
    split
    · rename_i handle phase running
      obtain ⟨entry, found, some_, sound⟩ := bounded.tasks id _ running
      refine .calm (bounded.quiet.become id ⟨entry, found, some_, ?_⟩ rfl)
      cases phase with
      | waiting | stopping | awaiting | spawned | looping => exact sound
      | _ => rfl
    · exact .calm bounded.quiet
  | others move =>
    simp only [next]
    split
    · exact .calm bounded.quiet
    · have progress : Progress digest w.db (Playback.next digest w.db move) := .move move
      exact .calm (bounded.aside progress rfl rfl rfl fun _ _ there => there)
  | wait time =>
    have progress : Progress digest w.db _ := .wait time
    exact .calm (bounded.aside progress rfl rfl rfl fun _ _ there => there)

end

variable {id : Nat}

theorem Turn.answers (turn : Turn w move w') (running : w'.tasks.find id = some task)
    (answer : task.answer = some (handle, receipt, instant)) :
    w.tasks.find id = some task ∨ Returned w' handle receipt instant := by
  have quiet : ∀ {middle : World}, Calm middle w' → middle.tasks.find id = some task := by
    intro middle calm
    refine (calm.answers id task running).resolve_right fun none => ?_
    rw [none] at answer
    cases answer
  cases turn with
  | calm kept => exact .inl (quiet kept.toCalm)
  | answered _ _ _ _ tasks returned =>
    rw [tasks, Table.find_put] at running
    split at running
    · cases running
      exact .inr (returned handle receipt instant answer)
    · exact .inl running
  | installed _ _ kept =>
    have before := quiet kept.toCalm
    exact .inl before

theorem Turn.deadlines (turn : Turn w move w') (found : w'.objects.find handle = some entry')
    (deadline : entry'.deadline = some instant) :
    (∃ entry, w.objects.find handle = some entry ∧ entry.deadline = some instant) ∨
      ∃ id input task receipt, move = .task id input ∧ w.tasks.find id = some task ∧
        task.answer = some (handle, receipt, instant) := by
  have kept : ∀ {middle : World}, Calm middle w' →
      ∃ entry, middle.objects.find handle = some entry ∧ entry.deadline = some instant := by
    intro middle calm
    rcases calm.deadlines handle entry' found with none | ⟨entry, before, same⟩
    · rw [none] at deadline
      cases deadline
    · exact ⟨entry, before, same.trans deadline⟩
  cases turn with
  | calm quiet => exact .inl (kept quiet.toCalm)
  | answered _ _ _ objects => exact .inl ⟨entry', objects ▸ found, deadline⟩
  | @installed id input task other receipt _ _ running answer quiet =>
    obtain ⟨entry, written, due⟩ := kept quiet.toCalm
    obtain ⟨before, known, rfl⟩ := World.setEntry_entry written
    by_cases same : handle = other
    · subst same
      simp only [if_true, Entry.install, Option.some.injEq] at due
      exact .inr ⟨id, input, task, receipt, rfl, running, due ▸ answer⟩
    · simp only [if_neg same] at due
      exact .inl ⟨before, known, due⟩

/-! ## Runs -/

theorem bounded_opened (db : System) (admissible : Admissible db) (offset : Int) (owner : Uuid) :
    Bounded (.opened db offset owner) := by
  refine ⟨admissible, ?_, ?_, ?_⟩
  · simp [World.opened]
  · simp [World.opened]
  · simp [World.opened]

theorem Bounded.run (bounded : Bounded w) (moves : List Move) : Bounded (run digest w moves) := by
  induction moves generalizing w with
  | nil => exact bounded
  | cons move moves ih => exact ih ((next_turn bounded move).bounded)

end

/-- Every task of `resource` has been polled since the process clock last moved: none is on its
way to its `select`, and none waits there past its instant. -/
def Served (w : World) : Prop :=
  ∀ id handle factory phase, w.tasks.find id = some (.resource handle factory phase) →
    match phase with
    | .spawned | .looping _ => False
    | .waiting expires _ => w.now < expires
    | _ => True

/-- From now on `check_on` refuses the identity for its expiry. -/
def Expired (w : World) (id : Uuid) : Prop :=
  ∃ row, w.db.store.reservations.find id = some row ∧ row.deadline ≤ w.db.store.clock

/-- The reservation has expired, or the instant that the task waits for is past. -/
def Late (w : World) (entry : Entry) (phase : ResourcePhase) : Prop :=
  Expired w entry.request.id ∨ ∃ expires seen, phase = .waiting expires seen ∧ expires ≤ w.now

/-- In how many polls the `select` of `resource` has looked at the instant. -/
def ResourcePhase.polls : ResourcePhase → Nat
  | .spawned => 3
  | .looping _ => 2
  | .waiting .. => 1
  | _ => 0

/-- The task's factory runs, and is cancelled or late with so many polls to go. -/
def Nearing (w : World) (id : Nat) (handle : Handle) (polls : Nat) : Prop :=
  ∃ factory phase entry, w.tasks.find id = some (.resource handle factory phase) ∧ factory.returned = false ∧
    w.objects.find handle = some entry ∧ (entry.cancelled = true ∨ Late w entry phase ∧ phase.polls ≤ polls)

/-- After these polls of the task the entry is cancelled. -/
def Cancels (digest : ConfigurationResponse → Option String) (w : World) (id : Nat) (handle : Handle)
    (inputs : List Input) : Prop :=
  ∃ entry, (run digest w (inputs.map (.task id))).objects.find handle = some entry ∧ entry.cancelled = true

section
variable {w : World} {digest : ConfigurationResponse → Option String} {id : Nat} (bounded : Bounded w)
include bounded

/-- The instant is past once the reservation has expired. -/
theorem Bounded.due (running : w.tasks.find id = some (.resource handle factory (.waiting expires seen)))
    (found : w.objects.find handle = some entry) (expired : Expired w entry.request.id) : expires ≤ w.now := by
  obtain ⟨known, there, -, within⟩ := bounded.tasks id _ running
  cases there.symm.trans found
  obtain ⟨row, stored, late⟩ := expired
  have bound : expires + w.offset ≤ row.deadline := within.stored row stored
  exact le_sub_iff_add_le.mpr (bound.trans late)

/-- A factory still runs behind the `select` only once it is cancelled. -/
theorem Bounded.stopped (running : w.tasks.find id = some (.resource handle factory phase))
    (unfinished : factory.returned = false) (found : w.objects.find handle = some entry)
    (near : phase.polls ≤ 0) : entry.cancelled = true := by
  obtain ⟨known, there, -, sound⟩ := bounded.tasks id _ running
  cases there.symm.trans found
  cases phase with
  | spawned | looping | waiting => cases near
  | stopping | awaiting => exact sound
  | _ => cases (show factory.returned = true from sound).symm.trans unfinished

/-- A factory that runs past the deadline of its reservation is cancelled. -/
theorem Bounded.cancelled (served : Served w)
    (running : w.tasks.find id = some (.resource handle factory phase))
    (unfinished : factory.returned = false) (found : w.objects.find handle = some entry)
    (expired : Expired w entry.request.id) : entry.cancelled = true := by
  have polled := served id handle factory phase running
  cases phase with
  | spawned | looping => exact polled.elim
  | waiting => exact absurd (lt_of_le_of_lt (bounded.due running found expired) polled) (lt_irrefl _)
  | _ => exact bounded.stopped running unfinished found le_rfl

theorem Bounded.poll (nearing : Nearing w id handle (polls + 1)) (input : Input) :
    Nearing (AdmissionOwner.next digest w (.task id input)) id handle polls := by
  obtain ⟨factory, phase, entry, running, unfinished, found, late⟩ := nearing
  have turn : AdmissionOwner.next digest w (.task id input) =
      w.stepResource digest id handle entry factory input phase := by
    simp only [AdmissionOwner.next, World.stepTask, running, found]
  rw [turn]
  have put := fun task => Table.find_put_self w.tasks id task
  -- Behind the `select` the entry is cancelled already.
  have stopped := bounded.stopped running unfinished found
  cases phase with
  | spawned =>
    refine ⟨_, _, entry, put _, rfl, found, late.imp_right fun ⟨late, near⟩ => ?_⟩
    exact ⟨.inl (late.resolve_right nofun), Nat.le_of_succ_le_succ near⟩
  | looping =>
    refine ⟨_, _, entry, put _, unfinished, found, late.imp_right fun ⟨late, near⟩ => ?_⟩
    exact ⟨.inl (late.resolve_right nofun), Nat.le_of_succ_le_succ near⟩
  | waiting expires seen =>
    have turn : Nearing (
        if entry.cancelled then w.become id (.resource handle factory .stopping)
        else if expires ≤ w.now then
          (w.setEntry handle .cancel).become id (.resource handle factory (.looping seen))
        else if entry.version ≠ seen then
          w.become id (.resource handle factory (.looping entry.version))
        else w) id handle polls := by
      split
      · rename_i cancelled
        exact ⟨_, _, entry, put _, unfinished, found, .inl cancelled⟩
      · rename_i uncancelled
        have due : expires ≤ w.now := by
          rcases (late.resolve_left uncancelled).1 with expired | ⟨_, _, same, past⟩
          · exact bounded.due running found expired
          · cases same
            exact past
        rw [if_pos due]
        exact ⟨_, _, entry.cancel, put _, unfinished, World.find_setEntry_self found, .inl rfl⟩
    cases factory with
    | finished => cases unfinished
    | launched | running => exact turn
  | stopping => exact ⟨_, _, entry, put _, unfinished, found, .inl (stopped le_rfl)⟩
  | awaiting =>
    cases factory with
    | finished => cases unfinished
    | launched | running =>
      simp only [World.stepResource]
      split
      · exact ⟨_, _, entry, put _, unfinished, found, .inl (stopped le_rfl)⟩
      · exact ⟨_, _, entry, running, unfinished, found, .inl (stopped le_rfl)⟩
  | _ =>
    obtain ⟨known, there, -, sound⟩ := bounded.tasks id _ running
    cases (show factory.returned = true from sound).symm.trans unfinished

/-- However late it is polled, a task of `resource` cancels its factory. -/
theorem Bounded.cancels (nearing : Nearing w id handle inputs.length) : Cancels digest w id handle inputs := by
  induction inputs generalizing w with
  | nil =>
    obtain ⟨factory, phase, entry, running, unfinished, found, cancelled | ⟨-, near⟩⟩ := nearing
    · exact ⟨entry, found, cancelled⟩
    · exact ⟨entry, found, bounded.stopped running unfinished found near⟩
  | cons input inputs ih => exact ih ((next_turn bounded _).bounded) (bounded.poll nearing input)

end

/-- Whatever the order of claims and renewals: an answer comes back with the deadline that is
then stored, and what is installed by it is not later; no entry gets a deadline in another
way; an entry's deadline, and the instant its task of `resource` waits for, are never
after that of the reservation. So a poll past the instant cancels a factory that still
runs, and once the reservation has expired three polls of the task do, wherever it was. -/
theorem local_deadline_conservative (digest : ConfigurationResponse → Option String) (now : Time)
    (history : List Playback.Move) (offset : Int) (owner : Uuid) (moves : List Move) :
    let w := run digest (.opened (Playback.run digest (.deployed now) history) offset owner) moves
    (∀ move id task handle receipt instant, (next digest w move).tasks.find id = some task →
      task.answer = some (handle, receipt, instant) → w.tasks.find id = some task ∨
        Returned (next digest w move) handle receipt instant) ∧
    (∀ move handle entry' instant, (next digest w move).objects.find handle = some entry' →
      entry'.deadline = some instant →
        (∃ entry, w.objects.find handle = some entry ∧ entry.deadline = some instant) ∨
        ∃ id input task receipt, move = .task id input ∧ w.tasks.find id = some task ∧
          task.answer = some (handle, receipt, instant)) ∧
    (∀ handle entry row, w.objects.find handle = some entry →
      w.db.store.reservations.find entry.request.id = some row →
        (∀ instant, entry.deadline = some instant → instant + w.offset ≤ row.deadline) ∧
        ∀ id factory expires seen,
          w.tasks.find id = some (.resource handle factory (.waiting expires seen)) →
            expires + w.offset ≤ row.deadline) ∧
    (Served w → ∀ id handle factory phase entry,
      w.tasks.find id = some (.resource handle factory phase) → factory.returned = false →
        w.objects.find handle = some entry → Expired w entry.request.id → entry.cancelled = true) ∧
    ∀ id handle factory phase entry inputs, w.tasks.find id = some (.resource handle factory phase) →
      factory.returned = false → w.objects.find handle = some entry → Late w entry phase →
        phase.polls ≤ inputs.length → Cancels digest w id handle inputs := by
  intro w
  have kept : ∀ sys move, Playback.Sound sys → Admissible sys →
      Admissible (Playback.next digest sys move) := fun _ move _ admissible => admissible.next move
  have admissible : Admissible (Playback.run digest (.deployed now) history) :=
    Playback.run_preserves kept (Playback.sound_deployed now) (Playback.admissible_deployed now) history
  have bounded : Bounded w := Bounded.run (bounded_opened _ admissible offset owner) moves
  have turn : ∀ move, Turn w move (next digest w move) := next_turn bounded
  refine ⟨fun move id task handle receipt instant => ?_, fun move handle entry instant => ?_, ?_, ?_, ?_⟩
  · exact (turn move).answers
  · exact (turn move).deadlines
  · intro handle entry row found stored
    refine ⟨fun instant deadline => ?_, fun id factory expires seen running => ?_⟩
    · exact (bounded.installed handle entry instant found deadline).stored row stored
    · obtain ⟨known, there, -, within⟩ := bounded.tasks id _ running
      cases there.symm.trans found
      exact within.stored row stored
  · intro served id handle factory phase entry running unfinished found expired
    exact bounded.cancelled served running unfinished found expired
  · intro id handle factory phase entry inputs running unfinished found late near
    exact bounded.cancels ⟨factory, phase, entry, running, unfinished, found, .inr ⟨late, near⟩⟩

/-- A poll whose transaction is answered at once. -/
def Sample.answered : Input := ⟨[], Playback.Sample.authority, .answered⟩

/-- A viewer is claimed, and its task waits for the factory until a minute is over. -/
def Sample.moves : List Move :=
  .start Playback.Sample.request none true :: List.replicate 4 (.task 1 answered) ++
    List.replicate 2 (.task 2 answered) ++ [.wait 60000000]

def Sample.late : World :=
  run Playback.Sample.digest (.opened (Playback.run Playback.Sample.digest (.deployed Playback.Sample.start)
    Playback.Sample.opening) 5 Playback.Sample.host) Sample.moves

/-- The task of the viewer waits for its deadline. -/
def Sample.waits : Task → Bool
  | .resource handle .running (.waiting _ _) => handle == 1
  | _ => false

/-- The next poll of the task cancels the factory. -/
theorem late_factory_cancelled :
    (∃ entry, Sample.late.objects.find 1 = some entry ∧ entry.cancelled = false ∧
      Expired Sample.late entry.request.id) ∧
    Cancels Playback.Sample.digest Sample.late 2 1 [Sample.answered] := by
  have entered : (Sample.late.objects.find 1).any (fun entry => !entry.cancelled &&
      (Sample.late.db.store.reservations.find entry.request.id).any fun row =>
        row.deadline ≤ Sample.late.db.store.clock) = true := by decide +kernel
  have waits : (Sample.late.tasks.find 2).any Sample.waits = true := by decide +kernel
  obtain ⟨entry, found, held⟩ := (Option.any_eq_true _ _).mp entered
  obtain ⟨open_, stored⟩ := Bool.and_eq_true_iff.mp held
  obtain ⟨row, known, over_⟩ := (Option.any_eq_true _ _).mp stored
  have expired : Expired Sample.late entry.request.id := ⟨row, known, of_decide_eq_true over_⟩
  obtain ⟨task, running, phase⟩ := (Option.any_eq_true _ _).mp waits
  refine ⟨⟨entry, found, by simpa using open_, expired⟩, ?_⟩
  unfold Sample.waits at phase
  split at phase
  · obtain rfl := eq_of_beq phase
    obtain ⟨-, -, -, -, cancels⟩ := local_deadline_conservative Playback.Sample.digest
      Playback.Sample.start Playback.Sample.opening 5 Playback.Sample.host Sample.moves
    exact cancels 2 1 _ _ entry _ running rfl found (.inl expired) le_rfl
  · cases phase

end Duskcue.AdmissionOwner
