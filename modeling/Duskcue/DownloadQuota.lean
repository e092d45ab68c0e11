import Duskcue.DownloadJobs

/-! The limits on active jobs, retained packages and bytes. A call compares the six
counts one after the other and inserts its job without a lock, and a package
appears later, when its job is finished, without a look at the limits. Every
other write lets the counts stand or fall. So a run stays within its limits
exactly when each of those writes finds room. -/
namespace Duskcue.Downloads
open Playback (Uuid Time)

/-! ## What rows weigh -/

/-- What a job counts for. -/
def Job.weight (resource : Resource) (scope : Scope) (job : Job) : Nat :=
  match resource with
  | .activeJobs => (job.counts scope).toNat
  | .retainedPackages | .bytes => 0

/-- What a package counts for. -/
def Package.weight (resource : Resource) (scope : Scope) (package : Package) : Nat :=
  match resource with
  | .activeJobs => 0
  | .retainedPackages => (package.counts scope).toNat
  | .bytes => if package.counts scope then package.totalBytes else 0

theorem used_eq (s : Store) (resource : Resource) (scope : Scope) :
    s.used resource scope = (s.jobs.total fun _ job => job.weight resource scope) +
      s.packages.total fun _ package => package.weight resource scope := by
  cases resource <;> simp [Store.used, Job.weight, Package.weight, Table.count_eq_total, Table.total_zero]

/-- No count of the store goes up. -/
def Lighter (s s' : Store) : Prop := ∀ resource scope, s'.used resource scope ≤ s.used resource scope

section
variable {s s' : Store} {key : Uuid}

theorem Lighter.rows
    (jobs : ∀ resource scope, (s'.jobs.total fun _ job => job.weight resource scope) ≤
      s.jobs.total fun _ job => job.weight resource scope)
    (packages : ∀ resource scope, (s'.packages.total fun _ package => package.weight resource scope) ≤
      s.packages.total fun _ package => package.weight resource scope) : Lighter s s' := by
  intro resource scope
  rw [used_eq, used_eq]
  exact Nat.add_le_add (jobs resource scope) (packages resource scope)

theorem Lighter.trans (first : Lighter s s') (second : Lighter s' s'') : Lighter s s'' :=
  fun resource scope => (second resource scope).trans (first resource scope)

theorem job_weight_le {old new : Job} (owner : new.userId = old.userId)
    (device : new.deviceIdentifier = old.deviceIdentifier)
    (active : new.status.active = true → old.status.active = true) (resource : Resource) (scope : Scope) :
    new.weight resource scope ≤ old.weight resource scope := by
  cases resource with
  | activeJobs =>
    simp only [Job.weight, Job.counts, owner, device]
    cases now : new.status.active with
    | false => simp
    | true => simp [active now]
  | retainedPackages | bytes => exact Nat.le_refl _

theorem package_weight_le {old new : Package} (owner : new.userId = old.userId)
    (device : new.deviceIdentifier = old.deviceIdentifier) (size : new.totalBytes = old.totalBytes)
    (retained : new.status.retained = true → old.status.retained = true) (resource : Resource) (scope : Scope) :
    new.weight resource scope ≤ old.weight resource scope := by
  have counted : new.counts scope = true → old.counts scope = true := by
    simp only [Package.counts, owner, device, Bool.and_eq_true]
    exact fun both => ⟨both.1, retained both.2⟩
  cases resource with
  | activeJobs => exact Nat.le_refl _
  | retainedPackages =>
    simp only [Package.weight]
    cases now : new.counts scope with
    | false => exact Nat.zero_le _
    | true => simp [counted now]
  | bytes =>
    simp only [Package.weight, size]
    cases now : new.counts scope with
    | false => exact Nat.zero_le _
    | true => simp [counted now]

/-- Writing a job over one that weighs no less. -/
theorem lighter_put_job {old new : Job} (found : s.jobs.find key = some old)
    (less : ∀ resource scope, new.weight resource scope ≤ old.weight resource scope) :
    Lighter s { s with jobs := s.jobs.put key new } := by
  refine Lighter.rows (fun resource scope => ?_) fun _ _ => Nat.le_refl _
  rw [Table.total_put, Table.total_split found]
  exact Nat.add_le_add_left (less resource scope) _

theorem lighter_updateJob
    (less : ∀ job, s.jobs.find key = some job → ∀ resource scope, (f job).weight resource scope ≤ job.weight resource scope) :
    Lighter s (s.updateJob key f) := by
  unfold Store.updateJob
  split
  · exact fun _ _ => Nat.le_refl _
  · next job found => exact lighter_put_job found (less job found)

theorem lighter_updatePackage
    (less : ∀ package resource scope, (f package).weight resource scope ≤ package.weight resource scope) :
    Lighter s (s.updatePackage key f) := by
  unfold Store.updatePackage
  split
  · exact fun _ _ => Nat.le_refl _
  · next package found =>
    refine Lighter.rows (fun _ _ => Nat.le_refl _) fun resource scope => ?_
    rw [Table.total_put, Table.total_split found]
    exact Nat.add_le_add_left (less package resource scope) _

theorem lighter_amend_jobs {f : Job → Job}
    (less : ∀ job resource scope, (f job).weight resource scope ≤ job.weight resource scope) :
    Lighter s { s with jobs := s.jobs.amend fun _ job => f job } := by
  refine Lighter.rows (fun resource scope => ?_) fun _ _ => Nat.le_refl _
  rw [Table.total_amend]
  exact Table.total_mono fun _ job _ => less job resource scope

theorem lighter_amend_packages {f : Package → Package}
    (less : ∀ package resource scope, (f package).weight resource scope ≤ package.weight resource scope) :
    Lighter s { s with packages := s.packages.amend fun _ package => f package } := by
  refine Lighter.rows (fun _ _ => Nat.le_refl _) fun resource scope => ?_
  rw [Table.total_amend]
  exact Table.total_mono fun _ package _ => less package resource scope

theorem lighter_refl (s : Store) : Lighter s s := fun _ _ => Nat.le_refl _

/-! ## Writes that raise no count -/

theorem statement_lighter {config : WorkerConfig} {pass pass' : Pass}
    (ran : pass.statement config draw s = .ok (s', pass'))
    (stored : ∀ work, pass.phase ≠ .processing work .persisting)
    (failed : ∀ work failure, pass.phase ≠ .failing work failure) : Lighter s s' := by
  have written := statement_written ran
  obtain ⟨left, phase⟩ := pass
  cases written with
  | nothing => exact lighter_refl s
  | recovered =>
    refine lighter_amend_jobs fun job resource scope => ?_
    split
    · next stale =>
      refine job_weight_le (by rfl) (by rfl) (fun _ => ?_) resource scope
      simp only [Job.stale, Bool.and_eq_true, decide_eq_true_eq] at stale
      rw [stale.1.1]
      rfl
    · exact Nat.le_refl _
  | claimed found claimable =>
    next job key =>
    refine lighter_put_job found (job_weight_le (by rfl) (by rfl) fun _ => ?_)
    have queued := congrArg Standing.status (claimable_standing claimable)
    simp only [Job.standing] at queued
    rw [queued]
    rfl
  | marked =>
    refine lighter_updateJob fun job _ => job_weight_le (by rfl) (by rfl) fun active => ?_
    cases active
  | progressed | released =>
    exact lighter_updateJob fun job _ => job_weight_le (by rfl) (by rfl) fun active => active
  | persisted => exact (stored _ rfl).elim
  | failed => exact (failed _ _ rfl).elim
  | expired | retired =>
    refine lighter_amend_packages fun package resource scope => ?_
    split
    · exact package_weight_le (by rfl) (by rfl) (by rfl) (fun retained => by cases retained) resource scope
    · exact Nat.le_refl _
  | cleaned =>
    exact lighter_updatePackage fun package =>
      package_weight_le (by rfl) (by rfl) (by rfl) fun retained => by cases retained

theorem apply_lighter (action : Action) (s : Store) : Lighter s (action.apply s) := by
  cases action with
  | cancel userId key reason =>
    obtain same | ⟨text, same⟩ := apply_cancel userId key reason s <;> rw [same]
    · exact lighter_refl s
    · refine lighter_updateJob fun job _ => job_weight_le (by rfl) (by rfl) fun active => ?_
      by_contra finished
      simp [Job.cancel, finished] at active
  | serve =>
    refine lighter_updatePackage fun package => package_weight_le (by rfl) (by rfl) (by rfl) fun retained => ?_
    by_cases ready : package.status = .ready
    · rw [ready]
      rfl
    · simpa [Package.serve, ready] using retained
  | expire | revoke =>
    refine lighter_updatePackage fun package resource scope => ?_
    split
    · exact package_weight_le (by rfl) (by rfl) (by rfl) (fun retained => by cases retained) resource scope
    · exact Nat.le_refl _
  | renew =>
    refine lighter_updatePackage fun package resource scope => ?_
    split
    · exact package_weight_le (by rfl) (by rfl) (by rfl) (fun retained => retained) resource scope
    · exact Nat.le_refl _
  | revokeJob =>
    refine lighter_updateJob fun job _ resource scope => ?_
    split
    · exact job_weight_le (by rfl) (by rfl) (fun active => by cases active) resource scope
    · exact Nat.le_refl _
  | renewJob => exact lighter_updateJob fun job _ => job_weight_le (by rfl) (by rfl) fun active => active
  | deletePackage key =>
    simp only [Action.apply, Store.deletePackage]
    split
    · exact lighter_refl s
    · next row _ =>
      have deleted : Lighter s (s.updatePackage key (Package.delete s.now)) := by
        refine lighter_updatePackage fun package resource scope => ?_
        unfold Package.delete
        split
        · exact Nat.le_refl _
        · exact package_weight_le (by rfl) (by rfl) (by rfl) (fun retained => by cases retained) resource scope
      exact deleted.trans (lighter_updateJob fun job _ => job_weight_le (by rfl) (by rfl) fun active => active)
  | loseFile =>
    refine lighter_amend_jobs fun job resource scope => ?_
    split
    · exact job_weight_le (by rfl) (by rfl) (fun active => active) resource scope
    · exact Nat.le_refl _
  | removeJob key =>
    refine Lighter.rows (fun resource scope => ?_) fun resource scope => ?_
    · exact Table.total_remove_le s.jobs key _
    · exact Table.total_discard_le s.packages (fun _ package => package.downloadJobId = key) _
  | request | proceed | launch | work | drop => exact lighter_refl s

end

/-! ## Room -/

/-- The counts of every user and device are within its limits. -/
def WithinLimits (config : Config) (s : Store) : Prop :=
  ∀ resource scope, (s.used resource scope : Int) ≤ (config.downloads scope.owner).limit resource scope

/-- The scopes a row of the user and device is counted in. -/
def scopes (userId : Uuid) (deviceIdentifier : String) : List Scope :=
  [.user userId, .device userId deviceIdentifier]

/-- One more active job is within the limits. -/
def RoomForJob (config : Config) (s : Store) (userId : Uuid) (deviceIdentifier : String) : Prop :=
  ∀ scope ∈ scopes userId deviceIdentifier,
    (s.used .activeJobs scope : Int) < (config.downloads userId).limit .activeJobs scope

/-- The package is within the limits beside the others. -/
def RoomForPackage (config : Config) (s : Store) (key : Uuid) (package : Package) : Prop :=
  ∀ scope ∈ scopes package.userId package.deviceIdentifier, ∀ resource ∈ [Resource.retainedPackages, .bytes],
    ({ s with packages := s.packages.remove key }.used resource scope + package.weight resource scope : Int) ≤
      (config.downloads package.userId).limit resource scope

/-- The statement of a pass finds room for what it adds: a package, or a job that was
finished. -/
def Pass.Room (config : Config) (draw : Draw) (s : Store) (pass : Pass) : Prop :=
  match pass.phase with
  | .processing work .persisting =>
    (∃ s', persistReadyPackage work draw.files draw.packageId s = .ok s') →
      RoomForPackage config s (s.packageRow work draw.files draw.packageId).1
        (s.packageRow work draw.files draw.packageId).2
  | .failing work _ => ∀ job, s.jobs.find work.id = some job → job.retryCount < intMax →
      work.retries config.worker.maxRetries = true → job.status.active = false →
        RoomForJob config s job.userId job.deviceIdentifier
  | _ => True

/-- What a move adds finds room: the INSERT of a call still finds the counts the call has
compared below their limits. -/
def Room (config : Config) (sys : System) (move : Move) : Prop :=
  match move.action with
  | .proceed call key => ∀ request, sys.requests.find call = some request → request.checks = [] →
      key ∉ sys.store.issued → RoomForJob config sys.store request.userId request.deviceIdentifier
  | .work number draw => draw.lands = true → ∀ pass, sys.passes.find number = some pass →
      pass.Room config draw (advance sys move.elapsed).store
  | _ => True

section
variable {config : Config} {s s' : Store}

theorem WithinLimits.lighter (within : WithinLimits config s) (lighter : Lighter s s') : WithinLimits config s' := by
  intro resource scope
  have fewer := lighter resource scope
  have before := within resource scope
  omega

theorem covers_iff {scope : Scope} :
    scope.covers userId deviceIdentifier = true ↔ scope ∈ scopes userId deviceIdentifier := by
  cases scope with
  | user =>
    simp only [Scope.covers, scopes, List.mem_cons, Scope.user.injEq, reduceCtorEq, decide_eq_true_eq,
      List.not_mem_nil, or_false]
    exact eq_comm
  | device =>
    simp only [Scope.covers, scopes, List.mem_cons, Scope.device.injEq, reduceCtorEq, decide_eq_true_eq,
      List.not_mem_nil, or_false, false_or, Bool.and_eq_true]
    exact ⟨fun both => ⟨both.1.symm, both.2.symm⟩, fun both => ⟨both.1.symm, both.2.symm⟩⟩

theorem scopes_owner (member : scope ∈ scopes userId deviceIdentifier) : scope.owner = userId := by
  simp only [scopes, List.mem_cons, List.not_mem_nil, or_false] at member
  obtain rfl | rfl := member <;> rfl

theorem job_weight_active {job : Job} (active : job.status.active = true)
    (member : scope ∈ scopes job.userId job.deviceIdentifier) : job.weight .activeJobs scope = 1 := by
  simp [Job.weight, Job.counts, active, covers_iff.mpr member]

theorem job_weight_elsewhere {job : Job}
    (other : scope ∉ scopes job.userId job.deviceIdentifier) : job.weight resource scope = 0 := by
  have uncovered : scope.covers job.userId job.deviceIdentifier = false := by
    rw [← Bool.not_eq_true, covers_iff]
    exact other
  cases resource <;> simp [Job.weight, Job.counts, uncovered]

theorem package_weight_elsewhere {package : Package}
    (other : scope ∉ scopes package.userId package.deviceIdentifier) : package.weight resource scope = 0 := by
  have uncovered : scope.covers package.userId package.deviceIdentifier = false := by
    rw [← Bool.not_eq_true, covers_iff]
    exact other
  cases resource <;> simp [Package.weight, Package.counts, uncovered]

/-- A job that was not counted and now is: the limits hold exactly with room for it. -/
theorem within_put_job (within : WithinLimits config s) {job : Job} (active : job.status.active = true)
    (uncounted : ∀ resource scope, ((s.jobs.remove key).total fun _ job => job.weight resource scope) =
      s.jobs.total fun _ job => job.weight resource scope) :
    WithinLimits config { s with jobs := s.jobs.put key job } ↔
      RoomForJob config s job.userId job.deviceIdentifier := by
  have used (resource : Resource) (scope : Scope) :
      { s with jobs := s.jobs.put key job }.used resource scope = s.used resource scope + job.weight resource scope := by
    rw [used_eq, used_eq, Table.total_put, uncounted]
    dsimp only
    omega
  constructor
  · intro after scope member
    have bound := after .activeJobs scope
    rw [used, job_weight_active active member, scopes_owner member] at bound
    push_cast at bound
    omega
  · intro room resource scope
    rw [used]
    by_cases member : scope ∈ scopes job.userId job.deviceIdentifier
    · cases resource with
      | activeJobs =>
        rw [job_weight_active active member, scopes_owner member]
        have bound := room scope member
        push_cast
        omega
      | retainedPackages | bytes => exact within _ scope
    · rw [job_weight_elsewhere member]
      exact within resource scope

/-- The limits hold behind a written package exactly with room for it. -/
theorem within_put_package (within : WithinLimits config s) (key : Uuid) (package : Package) :
    WithinLimits config { s with packages := s.packages.put key package } ↔ RoomForPackage config s key package := by
  have used (resource : Resource) (scope : Scope) :
      { s with packages := s.packages.put key package }.used resource scope =
        { s with packages := s.packages.remove key }.used resource scope + package.weight resource scope := by
    rw [used_eq, used_eq, Table.total_put]
    dsimp only
    omega
  have fewer (resource : Resource) (scope : Scope) :
      { s with packages := s.packages.remove key }.used resource scope ≤ s.used resource scope := by
    rw [used_eq, used_eq]
    exact Nat.add_le_add_left (Table.total_remove_le s.packages key _) _
  constructor
  · intro after scope member resource _
    have bound := after resource scope
    rw [used, scopes_owner member] at bound
    push_cast at bound
    exact bound
  · intro room resource scope
    rw [used]
    have before := within resource scope
    have rest := fewer resource scope
    by_cases member : scope ∈ scopes package.userId package.deviceIdentifier
    · cases resource with
      | activeJobs =>
        simp only [Package.weight]
        omega
      | retainedPackages | bytes =>
        rw [scopes_owner member]
        push_cast
        exact room scope member _ (by simp)
    · rw [package_weight_elsewhere member]
      omega

/-! ## Steps -/

theorem packages_updateJob (s : Store) (key : Uuid) (f : Job → Job) (scope : Scope) :
    (s.updateJob key f).used .retainedPackages scope = s.used .retainedPackages scope ∧
      (s.updateJob key f).used .bytes scope = s.used .bytes scope := by
  simp [Store.used]

theorem persist_within {id : Uuid}
    (within : WithinLimits config s) (ran : persistReadyPackage work files id s = .ok s') :
    WithinLimits config s' ↔
      RoomForPackage config s (s.packageRow work files id).1 (s.packageRow work files id).2 := by
  obtain ⟨-, rfl⟩ := persistReadyPackage_ok ran
  rw [← within_put_package within]
  constructor
  · intro after resource scope
    have packages := packages_updateJob (s.upsertPackage work files id) work.id
      (Job.finishReady (files.map PackageFile.byteSize).sum s.now) scope
    have bound := after resource scope
    cases resource with
    | activeJobs => exact within .activeJobs scope
    | retainedPackages =>
      rw [packages.1] at bound
      exact bound
    | bytes =>
      rw [packages.2] at bound
      exact bound
  · intro upserted
    refine WithinLimits.lighter upserted (lighter_updateJob fun job _ => job_weight_le (by rfl) (by rfl) ?_)
    intro active
    cases active

theorem fail_within (failure : String) (within : WithinLimits config s)
    (ran : failOrRetryJob config.worker work failure s = .ok s') :
    WithinLimits config s' ↔ ∀ job, s.jobs.find work.id = some job → job.retryCount < intMax →
      work.retries config.worker.maxRetries = true → job.status.active = false →
        RoomForJob config s job.userId job.deviceIdentifier := by
  obtain ⟨job, found, bounded, rfl⟩ := failOrRetryJob_ok ran
  by_cases raises : work.retries config.worker.maxRetries = true ∧ job.status.active = false
  · obtain ⟨retries, finished⟩ := raises
    have unweighed (resource : Resource) (scope : Scope) : job.weight resource scope = 0 := by
      cases resource <;> simp [Job.weight, Job.counts, finished]
    rw [within_put_job within (by simp [Job.failOrRetry, retries, JobStatus.active])]
    · constructor
      · intro room other held _ _ _
        cases found.symm.trans held
        exact room
      · intro room
        exact room job found bounded retries finished
    · intro resource scope
      rw [Table.total_split found, unweighed, Nat.add_zero]
  · refine ⟨fun _ other held _ retries finished => ?_, fun _ => within.lighter (lighter_put_job found ?_)⟩
    · cases found.symm.trans held
      exact (raises ⟨retries, finished⟩).elim
    · refine job_weight_le (by rfl) (by rfl) fun active => ?_
      by_contra finished
      refine raises ⟨?_, Bool.not_eq_true _ |>.mp finished⟩
      by_contra gives
      simp [Job.failOrRetry, gives, JobStatus.active] at active

/-- The statement of a pass keeps the limits exactly when it finds room. -/
theorem statement_within {pass pass' : Pass} (within : WithinLimits config s)
    (ran : pass.statement config.worker draw s = .ok (s', pass')) :
    WithinLimits config s' ↔ pass.Room config draw s := by
  by_cases stored : ∃ work, pass.phase = .processing work .persisting
  · obtain ⟨work, phase⟩ := stored
    simp only [Pass.Room, phase]
    have persisted : persistReadyPackage work draw.files draw.packageId s = .ok s' := by
      rw [Pass.statement, phase] at ran
      cases outcome : persistReadyPackage work draw.files draw.packageId s with
      | error => simp [Stage.statement, outcome, bind, Except.bind] at ran
      | ok =>
        simp only [Stage.statement, outcome, bind, Except.bind, pure, Except.pure, Except.ok.injEq,
          Prod.mk.injEq] at ran
        rw [ran.1]
    rw [persist_within within persisted]
    exact ⟨fun room _ => room, fun room => room ⟨s', persisted⟩⟩
  by_cases failed : ∃ work failure, pass.phase = .failing work failure
  · obtain ⟨work, failure, phase⟩ := failed
    simp only [Pass.Room, phase]
    refine fail_within failure within ?_
    rw [Pass.statement, phase] at ran
    cases outcome : failOrRetryJob config.worker work failure s with
    | error => simp [outcome, bind, Except.bind] at ran
    | ok =>
      simp only [outcome, bind, Except.bind, pure, Except.pure, Except.ok.injEq, Prod.mk.injEq] at ran
      rw [ran.1]
  have lighter := statement_lighter ran (fun work phase => stored ⟨work, phase⟩)
    fun work failure phase => failed ⟨work, failure, phase⟩
  refine ⟨fun _ => ?_, fun _ => within.lighter lighter⟩
  unfold Pass.Room
  split
  · next work phase => exact (stored ⟨work, phase⟩).elim
  · next work failure phase => exact (failed ⟨work, failure, phase⟩).elim
  · trivial

/-- A statement that fails adds nothing. -/
theorem error_room {pass : Pass}
    (ran : pass.statement config.worker draw s = .error raised) : pass.Room config draw s := by
  unfold Pass.Room
  split
  · next work phase =>
    rintro ⟨s', persisted⟩
    rw [Pass.statement, phase] at ran
    simp [Stage.statement, persisted, bind, Except.bind, pure, Except.pure] at ran
  · next work failure phase =>
    intro job found bounded
    rw [Pass.statement, phase] at ran
    simp [failOrRetryJob, found, Int.not_le.mpr bounded, bind, Except.bind, pure, Except.pure] at ran
  · trivial

variable {sys : System} {move : Move}

/-- A move from a store within its limits leads to one exactly when it finds room. -/
theorem next_within (known : Known sys) (within : WithinLimits config sys.store) :
    WithinLimits config (next config sys move).store ↔ Room config sys move := by
  have later : WithinLimits config (advance sys move.elapsed).store := within
  obtain ⟨call, key, request, asked, found, done, fresh, same⟩ |
      ⟨number, draw, pass, pass', asked, found, lands, ran⟩ | ⟨same, idle⟩ :=
    act_store config (advance sys move.elapsed) move.action
  · rw [next, same]
    have held : sys.requests.find call = some request := found
    have absent : (advance sys move.elapsed).store.jobs.find key = none := known.absent fresh
    have room : Room config sys move ↔
        RoomForJob config sys.store request.userId request.deviceIdentifier := by
      simp only [Room, asked]
      constructor
      · intro room
        exact room request held done fresh
      · intro room other again _ _
        cases held.symm.trans again
        exact room
    rw [room]
    exact within_put_job later rfl fun _ _ => by rw [Table.remove_of_absent absent]
  · have held : sys.passes.find number = some pass := found
    have room : Room config sys move ↔ pass.Room config draw (advance sys move.elapsed).store := by
      simp only [Room, asked]
      constructor
      · intro room
        exact room lands pass held
      · intro room _ other again
        cases held.symm.trans again
        exact room
    rw [room]
    exact statement_within later ran
  · have room : Room config sys move := by
      unfold Room
      split
      · next call key asked =>
        intro request found done fresh
        exact (fresh (idle.call call key request asked found done)).elim
      · next number draw asked =>
        intro lands pass found
        obtain ⟨raised, failed⟩ := idle.pass number draw pass asked found lands
        exact error_room failed
      · trivial
    rw [next, same]
    exact ⟨fun _ => room, fun _ => later.lighter (apply_lighter _ _)⟩

/-- Every state of a run is within the limits exactly when none of them is negative and
every write that adds a job or a package finds room for it. -/
theorem run_within_limits_iff (config : Config) (moves : List Move) :
    (∀ earlier later, moves = earlier ++ later → WithinLimits config (run config earlier).store) ↔
      (∀ resource scope, 0 ≤ (config.downloads scope.owner).limit resource scope) ∧
        Throughout (next config) (Room config) System.initial moves := by
  have start : WithinLimits config System.initial.store ↔
      ∀ resource scope, 0 ≤ (config.downloads scope.owner).limit resource scope := by
    unfold WithinLimits
    refine forall_congr' fun resource => forall_congr' fun scope => ?_
    have unused : System.initial.store.used resource scope = 0 := by cases resource <;> rfl
    rw [unused]
    rfl
  have along (holds : WithinLimits config System.initial.store) :=
    @throughout_iff _ _ (next config) (Room config) Known (fun sys => WithinLimits config sys.store)
      (fun _ move known => next_known known config move)
      (fun _ _ known within => next_within known within) _ initial_known holds moves
  constructor
  · intro all
    have holds : WithinLimits config System.initial.store := all [] moves rfl
    exact ⟨start.mp holds, (along holds).mp all⟩
  · rintro ⟨limits, met⟩
    exact (along (start.mpr limits)).mpr met

end

/-- Two calls of one phone, each of which compares every limit before the other inserts
its job; the phone may have one active job. -/
def Sample.twice : List Move :=
  { action := .request 0 1 "phone" 7 } :: { action := .request 1 1 "phone" 7 } ::
    (List.replicate 6 { action := .proceed 0 11 } ++ List.replicate 6 { action := .proceed 1 12 } ++
      [{ action := .proceed 0 11 }, { action := .proceed 1 12 }])

def Sample.single : Config := ⟨{}, fun _ => ⟨100, 50, 3, 1, 50, 25, 30⟩⟩

theorem concurrent_calls_exceed_limit :
    ¬ ∀ earlier later, Sample.twice = earlier ++ later →
      WithinLimits Sample.single (run Sample.single earlier).store := by
  intro all
  have bound := all Sample.twice [] (List.append_nil _).symm .activeJobs (.device 1 "phone")
  have exceeded : ¬ ((run Sample.single Sample.twice).store.used .activeJobs (.device 1 "phone") : Int) ≤
      (Sample.single.downloads 1).limit .activeJobs (.device 1 "phone") := by decide +kernel
  exact exceeded bound

end Duskcue.Downloads
