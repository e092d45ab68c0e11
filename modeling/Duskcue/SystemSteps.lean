import Duskcue.CommandSteps

/-! Runs of the system. From a sound system every move either leaves the store to
the clock or commits a sequence of steps, and the system is sound again; so an
invariant of the steps is an invariant of every run. -/
namespace Duskcue.Playback
open Transaction Relation

variable {sys : System} {s s' : Store} {α : Type} {inv : Store → Prop} {id : Uuid} {tx : Tx α}

/-- The store between transactions, with what each process remembers of it. -/
structure Sound (sys : System) : Prop where
  settled : Settled sys.store
  tracks : ∀ id work, sys.works.find id = some work → work.Tracks sys.store id

/-- What a move can do to the store: it may replace the directory, and commits a
sequence of steps. -/
def Evolves (directory : Directory) (s s' : Store) : Prop :=
  Ticked s s' ∨ Commits { s with directory } s'

/-- What every step and COMMIT preserve, and every directory `allowed`. -/
structure InvariantOn (allowed : Directory → Prop) (inv : Store → Prop) : Prop where
  step : ∀ s s', Consistent s → Step s s' → inv s → inv s'
  commit : ∀ s s', Consistent s → Committed s s' → inv s → inv s'
  administer : ∀ s directory, allowed directory → inv s → inv { s with directory }

/-- An invariant under every directory. -/
abbrev Invariant : (Store → Prop) → Prop := InvariantOn fun _ => True

section
variable {allowed : Directory → Prop} {inv : Store → Prop}

theorem InvariantOn.steps (invariant : InvariantOn allowed inv)
    (consistent : Consistent s) (steps : Steps s s') (holds : inv s) : inv s' := by
  induction steps with
  | refl => exact holds
  | tail before last ih => exact invariant.step _ _ (consistent.steps before) last ih

theorem InvariantOn.commits (invariant : InvariantOn allowed inv)
    (settled : Settled s) (commits : Commits s s') (holds : inv s) : inv s' := by
  obtain ⟨middle, steps, committed⟩ := commits
  exact invariant.commit _ _ (settled.toConsistent.steps steps) committed
    (invariant.steps settled.toConsistent steps holds)

theorem InvariantOn.evolves (invariant : InvariantOn allowed inv) {directory : Directory}
    (settled : Settled s) (permitted : allowed directory)
    (evolves : Evolves directory s s') (holds : inv s) : inv s' := by
  rcases evolves with ticked | commits
  · exact invariant.steps settled.toConsistent ticked.steps holds
  · exact invariant.commits (settled.administer directory) commits
      (invariant.administer s directory permitted holds)

/-- An invariant of the tables alone needs nothing of COMMIT or of the directory. -/
theorem Invariant.of_steps (step : ∀ s s', Consistent s → Step s s' → inv s → inv s')
    (tables : ∀ s directory queue, inv s → inv { s with directory, deferred := queue }) :
    Invariant inv where
  step := step
  commit := fun s _ _ committed holds => committed.cleared ▸ tables s s.directory [] holds
  administer := fun s directory _ holds => tables s directory s.deferred holds

end

theorem Steps.directory (steps : Steps s s') : s'.directory = s.directory := by
  induction steps with
  | refl => rfl
  | tail _ last ih => exact last.directory.trans ih

theorem Evolves.directory {directory : Directory} (evolves : Evolves directory s s') :
    s'.directory = s.directory ∨ s'.directory = directory := by
  rcases evolves with ⟨clock, ticks, -, rfl⟩ | ⟨middle, steps, committed⟩
  · exact .inl rfl
  · rw [committed.cleared]
    exact .inr steps.directory

theorem Commits.head {t : Store} (first : Steps s t) (commits : Commits t s') : Commits s s' := by
  obtain ⟨middle, steps, committed⟩ := commits
  exact ⟨middle, first.trans steps, committed⟩

theorem Work.Tracks.evolves {directory : Directory} {work : Work}
    (tracks : work.Tracks s id) (settled : Settled s) (evolves : Evolves directory s s') :
    work.Tracks s' id := by
  have invariant : Invariant fun s => work.Tracks s id := by
    refine .of_steps ?_ ?_
    · exact fun s s' consistent step tracks => tracks.step consistent.checked step
    · exact fun s _ _ tracks => ⟨tracks.spent, tracks.previous, tracks.viewer, tracks.rank⟩
  exact invariant.evolves settled trivial evolves tracks

theorem Settled.evolves {directory : Directory} (settled : Settled s)
    (evolves : Evolves directory s s') : Settled s' := by
  rcases evolves with ⟨clock, ticks, later, rfl⟩ | commits
  · exact settled.moved ticks later
  · exact (settled.administer directory).commits commits

/-! ## Moves -/

/-- A sound system after a move from another, with the directory the move sets. -/
structure Advances (directory : Directory) (sys sys' : System) : Prop where
  sound : Sound sys'
  evolves : Evolves directory sys.store sys'.store

section
variable {directory : Directory} {sys : System} {store : Store}

theorem Sound.advances (sound : Sound sys) (evolves : Evolves directory sys.store store) :
    Advances directory sys ⟨store, sys.works⟩ where
  sound.settled := sound.settled.evolves evolves
  sound.tracks := fun id work found => (sound.tracks id work found).evolves sound.settled evolves
  evolves := evolves

/-- With one more process that tracks its operation. -/
theorem Sound.works (sound : Sound sys) (evolves : Evolves directory sys.store store)
    {work : Work} (tracks : work.Tracks store id) :
    Advances directory sys ⟨store, sys.works.put id work⟩ where
  sound.settled := sound.settled.evolves evolves
  sound.tracks := by
    intro other kept found
    rw [Table.find_put] at found
    split at found
    · rename_i same
      cases found
      exact same ▸ tracks
    · exact (sound.tracks other kept found).evolves sound.settled evolves
  evolves := evolves

end

theorem attempt_cases (sys : System) (tx : Tx α) (reply : α → Reply) (keep : α → Table Uuid Work → Table Uuid Work) :
    (∃ a s', Yields tx sys.store a s' ∧
      sys.attempt tx reply keep = (reply a, ⟨s', keep a sys.works⟩)) ∨
      ∃ failure, tx.run sys.store = .error failure ∧
        sys.attempt tx reply keep = (.refused failure, sys) := by
  unfold System.attempt
  rcases settle_cases tx sys.store with ⟨a, s', ran, settled⟩ | ⟨failure, failed, settled⟩
  · exact .inl ⟨a, s', ran, by rw [settled]⟩
  · exact .inr ⟨failure, failed, by rw [settled]⟩

theorem attempt_yields {a : α} (ran : Yields tx sys.store a s') (reply : α → Reply)
    (keep : α → Table Uuid Work → Table Uuid Work) :
    sys.attempt tx reply keep = (reply a, ⟨s', keep a sys.works⟩) := by
  simp only [System.attempt, settle, show tx.run sys.store = .ok (a, s') from ran]

theorem attempt_fails {failure : Failure} (failed : tx.run sys.store = .error failure) (reply : α → Reply)
    (keep : α → Table Uuid Work → Table Uuid Work) :
    sys.attempt tx reply keep = (.refused failure, sys) := by
  simp only [System.attempt, settle, failed]

theorem Sound.perform {directory : Directory} (sound : Sound sys)
    (reply : α → Reply)
    (commits : ∀ a s', Yields tx sys.store a s' → Commits { sys.store with directory } s') :
    Advances directory sys (sys.perform tx reply).2 := by
  rcases attempt_cases sys tx reply fun _ works => works with ⟨a, s', ran, eq⟩ | ⟨failure, -, eq⟩
  · rw [System.perform, eq]
    exact sound.advances (.inr (commits a s' ran))
  · rw [System.perform, eq]
    exact sound.advances (.inl (.refl _))

/-- One transaction of an execution, which leaves its operation where the process is
next. -/
theorem Sound.advance (sound : Sound sys) {phase next : Phase} {tx : Work → Tx Unit}
    (commits : ∀ work, sys.works.find id = some work → work.phase = phase → ∀ u s',
      Yields (tx work) sys.store u s' → Commits sys.store s' ∧
        ∀ p, s'.operations.find id = some p → next.rank ≤ p.state.rank) :
    Advances sys.store.directory sys (sys.advance id phase next tx).2 := by
  unfold System.advance
  cases found : sys.works.find id with
  | none => exact sound.advances (.inl (.refl _))
  | some work =>
    simp only
    split
    · rename_i arrived
      rcases attempt_cases sys (tx work) (fun _ => .done) fun _ works =>
        works.put id { work with phase := next } with ⟨u, s', ran, eq⟩ | ⟨failure, -, eq⟩
      · rw [eq]
        obtain ⟨commits, rank⟩ := commits work found arrived u s' ran
        have tracks := (sound.tracks id work found).evolves sound.settled (.inr commits)
        exact sound.works (.inr commits) ⟨tracks.spent, tracks.previous, tracks.viewer, rank⟩
      · rw [eq]
        exact sound.advances (.inl (.refl _))
    · exact sound.advances (.inl (.refl _))

theorem administer_commits {directory : Directory} {retirements : List Retirement}
    {u : Unit} (ran : Yields (administer directory retirements) s u s') :
    Commits { s with directory } s' := by
  have retires : ∀ retirement : Retirement, Within Step retirement.apply := by
    rintro (_ | _ | _ | _ | _ | _ | _ | _ | _ | _ | _) <;> exact retireWhere_steps _
  obtain ⟨middle, acted, committed⟩ := transaction_yields ran
  rw [yields_modify_bind] at acted
  exact ⟨middle, Within.forEach _ (fun retirement _ => retires retirement) _ _ _ acted, committed⟩

/-- The directory an action leaves. -/
def Action.directory : Action → Directory → Directory
  | .administer directory _, _ => directory
  | _, directory => directory

variable {digest : ConfigurationResponse → Option String}

theorem act_advances (sound : Sound sys) (action : Action) :
    Advances (action.directory sys.store.directory) sys (act digest sys action).2 := by
  cases action with
  | register => exact sound.perform _ fun _ _ => register_commits
  | claim => exact sound.perform _ fun _ _ ran => (claim_commits ran).1
  | check => exact sound.perform _ fun _ _ ran => (check_commits ran).1
  | retire => exact sound.perform _ fun _ _ => retire_commits
  | prune => exact sound.perform _ fun _ _ => prune_commits
  | fence => exact sound.perform _ fun _ _ => fence_commits
  | reconcile => exact sound.perform _ fun _ _ => reconcile_commits
  | registerIntent => exact sound.perform _ fun _ _ => registerIntent_commits
  | completeIntent => exact sound.perform _ fun _ _ => completeIntent_commits
  | inspect => exact sound.perform _ fun _ _ ran => (inspect_commits ran).1
  | stop => exact sound.perform _ fun _ _ => stop_commits
  | setup => exact sound.perform _ fun _ _ => setup_commits sound.settled
  | publish => exact sound.perform _ fun _ _ => publish_commits sound.settled
  | failed => exact sound.perform _ fun _ _ => failed_commits
  | unavailable => exact sound.perform _ fun _ _ => unavailable_commits
  | cleanUncertain => exact sound.perform _ fun _ _ => cleanUncertain_commits
  | clean => exact sound.perform _ fun _ _ => clean_commits
  | cleanup => exact sound.perform _ fun _ _ => cleanup_commits
  | cleanupUncertain => exact sound.perform _ fun _ _ => cleanupUncertain_commits
  | accept instanceId request binding authority target input process =>
    rcases attempt_cases sys (accept digest instanceId request binding authority target input process)
      _ _ with ⟨reply, s', ran, eq⟩ | ⟨failure, -, eq⟩
    · rw [act, eq]
      obtain ⟨commits, ⟨stale, -⟩ | ⟨fresh, _, _, _, row, accepted, -⟩⟩ := accept_commits sound.settled ran
      · simp only [stale, Bool.false_eq_true, if_false]
        exact sound.advances (.inr commits)
      · simp only [fresh, if_true]
        refine sound.works (.inr commits) ⟨.inl (by simp [accepted.stored]), ?_, ?_, fun _ _ => Nat.zero_le _⟩
        · intro p found
          cases accepted.stored.symm.trans found
          exact accepted.expected.symm
        · intro p found
          cases accepted.stored.symm.trans found
          exact accepted.owner.symm
    · rw [act, eq]
      exact sound.advances (.inl (.refl _))
  | replay => exact sound.perform _ fun _ _ ran => (replay_commits ran).1
  | executeRetiring =>
    refine sound.advance fun work found _ u s' ran => ?_
    exact executeRetiring_commits sound.settled (sound.tracks _ _ found).previous ran
  | executePreparing =>
    refine sound.advance fun work found arrived u s' ran => ?_
    have rank := (sound.tracks _ _ found).rank
    rw [arrived] at rank
    exact executePreparing_commits sound.settled rank ran
  | executeFailed =>
    refine sound.advance fun work found arrived u s' ran => ?_
    have tracks := sound.tracks _ _ found
    have rank := tracks.rank
    rw [arrived] at rank
    have commits := executeFailed_commits sound.settled rank ran
    have kept := (tracks.evolves sound.settled (.inr commits)).rank
    rw [arrived] at kept
    exact ⟨commits, kept⟩
  | checkpoint => exact sound.perform _ fun _ _ => checkpoint_commits
  | administer => exact sound.perform _ fun _ _ => administer_commits

theorem Sound.arrive (sound : Sound sys) (elapsed : List Nat) : Sound (sys.arrive elapsed) :=
  have evolves : Evolves sys.store.directory sys.store (sys.arrive elapsed).store :=
    .inl ⟨sys.store.clock, elapsed, le_rfl, rfl⟩
  (sound.advances evolves).sound

theorem next_advances (sound : Sound sys) (move : Move) :
    Advances (move.action.directory sys.store.directory) sys (next digest sys move) := by
  have acted : Advances _ _ (act digest (sys.arrive move.elapsed) move.action).2 :=
    act_advances (sound.arrive move.elapsed) move.action
  obtain ⟨sound', evolves⟩ := acted
  refine ⟨sound', ?_⟩
  have arrived : ∀ s : Store, Ticked s { s with ticks := move.elapsed } :=
    fun s => ⟨s.clock, move.elapsed, le_rfl, rfl⟩
  exact evolves.imp (arrived sys.store).trans (Commits.head (arrived _).steps)

/-! ## Runs -/

theorem run_append (sys : System) (first rest : List Move) :
    run digest sys (first ++ rest) = run digest (run digest sys first) rest := by
  simp [run]

theorem Sound.run (sound : Sound sys) (moves : List Move) : Sound (run digest sys moves) := by
  induction moves generalizing sys with
  | nil => exact sound
  | cons move _ ih => exact ih (next_advances sound move).sound

theorem run_preserves {inv : System → Prop} (kept : ∀ sys move, Sound sys → inv sys → inv (next digest sys move))
    (sound : Sound sys) (holds : inv sys) (moves : List Move) :
    inv (run digest sys moves) := by
  induction moves generalizing sys with
  | nil => exact holds
  | cons move _ ih => exact ih (next_advances sound move).sound (kept sys move sound holds)

/-- A move that sets no directory but an allowed one. -/
def Move.Permitted (allowed : Directory → Prop) (move : Move) : Prop :=
  ∀ directory retirements, move.action = .administer directory retirements → allowed directory

theorem Move.Permitted.directory {allowed : Directory → Prop} {move : Move}
    (permitted : move.Permitted allowed) {current : Directory} (start : allowed current) :
    allowed (move.action.directory current) := by
  obtain ⟨elapsed, action⟩ := move
  cases action with
  | administer directory retirements => exact permitted directory retirements rfl
  | _ => exact start

/-- An invariant of the steps holds along every run that keeps to the directories it
allows. -/
theorem InvariantOn.run {allowed : Directory → Prop} (invariant : InvariantOn allowed inv) (sound : Sound sys)
    (start : allowed sys.store.directory) (holds : inv sys.store) {moves : List Move}
    (permitted : ∀ move ∈ moves, move.Permitted allowed) : inv (run digest sys moves).store := by
  induction moves generalizing sys with
  | nil => exact holds
  | cons move moves ih =>
    have advances : Advances _ sys (next digest sys move) := next_advances sound move
    have set : allowed (move.action.directory sys.store.directory) :=
      (permitted move (by simp)).directory start
    refine ih advances.sound ?_ ?_ fun other member => permitted other (by simp [member])
    · rcases advances.evolves.directory with same | same
      · exact same ▸ start
      · exact same ▸ set
    · exact invariant.evolves sound.settled set advances.evolves holds

theorem Invariant.run (invariant : Invariant inv) (sound : Sound sys) (holds : inv sys.store) (moves : List Move) :
    inv (run digest sys moves).store :=
  InvariantOn.run invariant sound trivial holds fun _ _ _ _ _ => trivial

theorem Invariant.next (invariant : Invariant inv) (sound : Sound sys) (holds : inv sys.store) (move : Move) :
    inv (next digest sys move).store :=
  invariant.run sound holds [move]

theorem sound_deployed (now : Time) : Sound (.deployed now) where
  settled := {
    rooted := by constructor <;> simp [System.deployed, Store.migrated]
    checked := by constructor <;> simp [System.deployed, Store.migrated]
    pending := by constructor <;> simp [System.deployed, Store.migrated]
    served := by constructor <;> simp [System.deployed, Store.migrated]
    idle := rfl
    keys := rfl }
  tracks := by simp [System.deployed]

theorem Reachable.sound (reachable : Reachable digest sys) : Sound sys := by
  obtain ⟨now, moves, rfl⟩ := reachable
  exact (sound_deployed now).run moves

theorem Reachable.run (reachable : Reachable digest sys) (moves : List Move) :
    Reachable digest (run digest sys moves) := by
  obtain ⟨now, first, rfl⟩ := reachable
  exact ⟨now, first ++ moves, run_append ..⟩

theorem Reachable.invariant (invariant : Invariant inv)
    (deployed : ∀ now, inv (Store.migrated now)) (reachable : Reachable digest sys) :
    inv sys.store := by
  obtain ⟨now, moves, rfl⟩ := reachable
  exact invariant.run (sound_deployed now) (deployed now) moves

end Duskcue.Playback
