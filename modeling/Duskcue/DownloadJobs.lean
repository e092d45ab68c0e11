import Duskcue.OfflineDownloads
import Duskcue.Trace

/-! What a run does to one download job. Cancellation, the worker's success and
failure writes and the stale recovery all update the same row, some of them by
its key alone; `Change` lists every way the columns they decide on can move, and
the laws of a job follow from it one step at a time. -/
namespace Duskcue.Downloads
open Playback (Uuid Time)

/-! ## The columns the writes decide on -/

/-- Where a job stands. -/
structure Standing where
  status : JobStatus
  retryCount : Int
  cancellationRequested : Bool

def Job.standing (job : Job) : Standing := ⟨job.status, job.retryCount, job.cancellationRequested⟩

def Store.standing (s : Store) (id : Uuid) : Option Standing := (s.jobs.find id).map Job.standing

theorem find_updateJob (s : Store) (key id : Uuid) (f : Job → Job) :
    (s.updateJob key f).jobs.find id = if id = key then (s.jobs.find id).map f else s.jobs.find id := by
  unfold Store.updateJob
  split
  · next absent =>
    split
    · next same => rw [same, absent, Option.map_none]
    · rfl
  · next job found =>
    rw [Table.find_put]
    split
    · next same => rw [same, found, Option.map_some]
    · rfl

@[simp] theorem updateJob_packages (s : Store) (key : Uuid) (f : Job → Job) :
    (s.updateJob key f).packages = s.packages := by
  unfold Store.updateJob
  split <;> rfl

@[simp] theorem updateJob_issued (s : Store) (key : Uuid) (f : Job → Job) :
    (s.updateJob key f).issued = s.issued := by
  unfold Store.updateJob
  split <;> rfl

@[simp] theorem updatePackage_jobs (s : Store) (key : Uuid) (f : Package → Package) :
    (s.updatePackage key f).jobs = s.jobs := by
  unfold Store.updatePackage
  split <;> rfl

@[simp] theorem updatePackage_issued (s : Store) (key : Uuid) (f : Package → Package) :
    (s.updatePackage key f).issued = s.issued := by
  unfold Store.updatePackage
  split <;> rfl

/-! ## Steps -/

/-- What a step can make of a job, where a write that finds the row in another state than
its claim left it does no harm: it overwrites no cancellation, and queues a job again
only while it is not finished and has a retry left. -/
inductive Change (maxRetries : Int) (issued : Prop) : Option Standing → Option Standing → Prop
  | kept (job : Option Standing) : Change maxRetries issued job job
  | created (fresh : ¬ issued) : Change maxRetries issued none (some ⟨.queued, 0, false⟩)
  | removed (job : Option Standing) : Change maxRetries issued job none
  | claimed (count : Int) : Change maxRetries issued (some ⟨.queued, count, false⟩) (some ⟨.preparing, count, false⟩)
  | cancelled (status : JobStatus) (count : Int) (asked : Bool) (active : status.active = true) :
      Change maxRetries issued (some ⟨status, count, asked⟩) (some ⟨.cancelled, count, true⟩)
  | asked (status : JobStatus) (count : Int) (asked : Bool) (finished : status.active = false) :
      Change maxRetries issued (some ⟨status, count, asked⟩) (some ⟨status, count, true⟩)
  | marked (status : JobStatus) (count : Int) (asked : Bool) :
      Change maxRetries issued (some ⟨status, count, asked⟩) (some ⟨.cancelled, count, true⟩)
  | readied (status : JobStatus) (count : Int) (asked : Bool) (uncancelled : status ≠ .cancelled) :
      Change maxRetries issued (some ⟨status, count, asked⟩) (some ⟨.ready, count, asked⟩)
  | requeued (status : JobStatus) (count : Int) (asked : Bool) (active : status.active = true)
      (left : count < maxRetries) :
      Change maxRetries issued (some ⟨status, count, asked⟩) (some ⟨.queued, count + 1, asked⟩)
  | failed (status : JobStatus) (count : Int) (asked : Bool) (uncancelled : status ≠ .cancelled) :
      Change maxRetries issued (some ⟨status, count, asked⟩) (some ⟨.failed, count + 1, asked⟩)
  | revoked (count : Int) (asked : Bool) :
      Change maxRetries issued (some ⟨.ready, count, asked⟩) (some ⟨.revoked, count, asked⟩)

/-- The writes that name a job by its key alone, and the stale recovery, find it as `Change`
asks. -/
def Pass.clear (config : WorkerConfig) (s : Store) (pass : Pass) : Bool :=
  match pass.phase with
  | .recovering => !s.jobs.holds fun _ job =>
      job.stale config.stalePreparingMinutes s.now && !decide (job.retryCount < config.maxRetries)
  | .processing work .persisting => (s.jobs.find work.id).all fun job => job.status ≠ .cancelled
  | .failing work _ => (s.jobs.find work.id).all fun job =>
      job.status ≠ .cancelled &&
        (!work.retries config.maxRetries || job.status.active && decide (job.retryCount < config.maxRetries))
  | _ => true

/-- The same of a move: the statement a pass runs, if it takes effect. -/
def clear (config : Config) (sys : System) (move : Move) : Bool :=
  match move.action with
  | .work number draw => !draw.lands ||
      (sys.passes.find number).all (Pass.clear config.worker (advance sys move.elapsed).store)
  | _ => true

section
variable {config : WorkerConfig} {s s' : Store} {pass pass' : Pass} {draw : Draw} {id : Uuid}
  {work : DownloadJobWork} {given : Prop}

theorem standing_updateJob (s : Store) (key id : Uuid) (f : Job → Job) :
    (s.updateJob key f).standing id =
      if id = key then (s.jobs.find id).map (Job.standing ∘ f) else s.standing id := by
  unfold Store.standing
  rw [find_updateJob]
  split
  · rw [Option.map_map]
  · rfl

theorem change_updateJob
    (moved : ∀ job, s.jobs.find key = some job → Change n given (some job.standing) (some (f job).standing)) (id : Uuid) :
    Change n given (s.standing id) ((s.updateJob key f).standing id) := by
  rw [standing_updateJob]
  split
  · next same =>
    subst same
    unfold Store.standing
    cases found : s.jobs.find id with
    | none => exact .kept none
    | some job => exact moved job found
  · exact .kept _

/-- An update of columns no write decides on. -/
theorem change_keeping (id : Uuid) (same : ∀ job, (f job).standing = job.standing) :
    Change n given (s.standing id) ((s.updateJob key f).standing id) := by
  apply change_updateJob
  intro job _
  rw [same]
  exact .kept _

theorem nextJob_claimable (chosen : nextJob s locked = some id) :
    ∃ job, s.jobs.find id = some job ∧ job.claimable = true := by
  obtain ⟨job, found, free⟩ := Table.mem_select.mp (List.argmin_mem chosen)
  exact ⟨job, found, (Bool.and_eq_true_iff.mp free).1⟩

theorem claimable_standing {job : Job} (claimable : job.claimable = true) :
    job.standing = ⟨.queued, job.retryCount, false⟩ := by
  simp only [Job.claimable, Bool.and_eq_true, decide_eq_true_eq, Bool.not_eq_true'] at claimable
  simp [Job.standing, claimable]

theorem claimNextJob_cases (ran : claimNextJob locked s = .ok (s', claimed)) :
    claimed = none ∧ s' = s ∨ ∃ job work, claimed = some work ∧ s.jobs.find work.id = some job ∧
      job.claimable = true ∧ s' = { s with jobs := s.jobs.put work.id (job.claim s.now) } := by
  unfold claimNextJob at ran
  split at ran
  · cases ran
    exact .inl ⟨rfl, rfl⟩
  · next key chosen =>
    obtain ⟨job, found, claimable⟩ := nextJob_claimable chosen
    simp only [found, Option.bind_some] at ran
    split at ran
    · cases ran
    · next same =>
      obtain ⟨file, -, pair⟩ := Option.map_eq_some_iff.mp same
      obtain ⟨rfl, rfl⟩ := Prod.mk.inj pair
      cases ran
      exact .inr ⟨job, _, rfl, found, claimable, rfl⟩

theorem recoverStalePreparing_ok (ran : recoverStalePreparing minutes s = .ok s') :
    s' = { s with jobs := s.jobs.amend fun _ job => if job.stale minutes s.now then job.recover s.now else job } := by
  unfold recoverStalePreparing at ran
  split at ran <;> cases ran
  rfl

theorem persistReadyPackage_ok (ran : persistReadyPackage work files package s = .ok s') :
    (∃ job, s.jobs.find work.id = some job) ∧ s' = (s.upsertPackage work files package).updateJob work.id
      (Job.finishReady (files.map PackageFile.byteSize).sum s.now) := by
  unfold persistReadyPackage at ran
  split at ran
  · cases ran
  next present =>
  split at ran <;> cases ran
  exact ⟨Option.ne_none_iff_exists'.mp (by simpa using present), rfl⟩

theorem failOrRetryJob_ok {failure : String} (ran : failOrRetryJob config work failure s = .ok s') :
    ∃ job, s.jobs.find work.id = some job ∧ job.retryCount < intMax ∧ s' = { s with
      jobs := s.jobs.put work.id
        (job.failOrRetry (work.retries config.maxRetries) failure config.failedCleanupHours s.now) } := by
  unfold failOrRetryJob at ran
  split at ran
  · cases ran
  next job found =>
  split at ran
  · cases ran
  next inside =>
  cases ran
  exact ⟨job, found, Int.not_le.mp inside, rfl⟩

/-- What the statement of a pass writes. -/
inductive Written (config : WorkerConfig) (draw : Draw) (s : Store) : Phase → Store → Prop
  | nothing (phase : Phase) : Written config draw s phase s
  | recovered : Written config draw s .recovering { s with
      jobs := s.jobs.amend fun _ job =>
        if job.stale config.stalePreparingMinutes s.now then job.recover s.now else job }
  | claimed {job : Job} {id : Uuid} (found : s.jobs.find id = some job) (claimable : job.claimable = true) :
      Written config draw s .claiming { s with jobs := s.jobs.put id (job.claim s.now) }
  | marked (work : DownloadJobWork) (late : Bool) :
      Written config draw s (.processing work (.cancelling late))
        (s.updateJob work.id (Job.markCancelled (cancelReason late) s.now))
  | progressed (work : DownloadJobWork) (stage : Stage) (percent bytes : Nat) :
      Written config draw s (.processing work stage) (s.updateJob work.id (Job.progress percent bytes s.now))
  | persisted {work : DownloadJobWork} (present : ∃ job, s.jobs.find work.id = some job) :
      Written config draw s (.processing work .persisting) ((s.upsertPackage work draw.files draw.packageId).updateJob
        work.id (Job.finishReady (draw.files.map PackageFile.byteSize).sum s.now))
  | failed {work : DownloadJobWork} {failure : String} {job : Job} (found : s.jobs.find work.id = some job) :
      Written config draw s (.failing work failure) { s with
        jobs := s.jobs.put work.id
          (job.failOrRetry (work.retries config.maxRetries) failure config.failedCleanupHours s.now) }
  | expired : Written config draw s .expiring (expireDue s)
  | retired (days : Int) : Written config draw s .retiring (retireUnserved days s)
  | cleaned (phase : Phase) (id : Uuid) :
      Written config draw s phase
        (s.updatePackage id fun package => { package with status := .cleaned, updatedAt := s.now })
  | released (phase : Phase) (id : Uuid) :
      Written config draw s phase
        (s.updateJob id fun job => { job with cleanupAfterAt := none, updatedAt := s.now })

theorem stage_written {stage : Stage} (ran : stage.statement draw work s = .ok (s', stage')) :
    Written config draw s (.processing work stage) s' := by
  cases stage with
  | checking | rechecking =>
    obtain ⟨cancelled, -, rest⟩ := bind_ok ran
    cases rest
    exact .nothing _
  | cancelling late =>
    cases ran
    exact .marked work late
  | preparing | staging | completing =>
    cases ran
    exact .progressed work _ _ _
  | persisting =>
    obtain ⟨persisted, stored, rest⟩ := bind_ok ran
    cases rest
    obtain ⟨present, rfl⟩ := persistReadyPackage_ok stored
    exact .persisted present
  | recordingCancelled | packaging | recordingReady =>
    cases ran
    exact .nothing _

theorem statement_written (ran : pass.statement config draw s = .ok (s', pass')) :
    Written config draw s pass.phase s' := by
  obtain ⟨left, phase⟩ := pass
  cases phase with
  | recovering =>
    obtain ⟨recovered, stored, rest⟩ := bind_ok ran
    cases rest
    rw [recoverStalePreparing_ok stored]
    exact .recovered
  | claiming =>
    obtain ⟨⟨claimedStore, claimed⟩, took, rest⟩ := bind_ok ran
    have same : claimedStore = s' := by
      cases claimed <;> exact (Prod.mk.inj (Except.ok.inj rest)).1
    subst same
    obtain ⟨-, rfl⟩ | ⟨job, work, -, found, claimable, rfl⟩ := claimNextJob_cases took
    · exact .nothing _
    · exact .claimed found claimable
  | processing =>
    obtain ⟨⟨performed, stage'⟩, took, rest⟩ := bind_ok ran
    have same : performed = s' := by
      cases stage' <;> exact (Prod.mk.inj (Except.ok.inj rest)).1
    subst same
    exact stage_written took
  | failing =>
    obtain ⟨failed, stored, rest⟩ := bind_ok ran
    cases rest
    obtain ⟨job, found, -, rfl⟩ := failOrRetryJob_ok stored
    exact .failed found
  | expiring =>
    cases ran
    exact .expired
  | retiring =>
    cases ran
    exact .retired _
  | cleaningPackages ids =>
    cases ids with
    | nil =>
      cases ran
      exact .nothing _
    | cons id =>
      cases ran
      exact .cleaned _ id
  | cleaningJobs ids =>
    cases ids with
    | nil =>
      cases ran
      exact .nothing _
    | cons id =>
      cases ran
      exact .released _ id
  | starting | recordingFailed | selectingPackages | selectingJobs | ended =>
    cases ran
    exact .nothing _

/-- A pass writes what its statement writes, if the statement takes effect. -/
theorem perform_cases (config : WorkerConfig) (draw : Draw) (s : Store) (pass : Pass) :
    (pass.perform config draw s).1 = s ∧
        (draw.lands = true → ∃ raised, pass.statement config draw s = .error raised) ∨
      draw.lands = true ∧ ∃ pass', pass.statement config draw s = .ok ((pass.perform config draw s).1, pass') := by
  unfold Pass.perform
  split
  · next refused =>
    refine .inl ⟨rfl, fun lands => ?_⟩
    simp [Draw.lands, refused] at lands
  · next lost =>
    split
    · next raised ran => exact .inl ⟨rfl, fun _ => ⟨raised, ran⟩⟩
    · next ran => exact .inr ⟨by simp [Draw.lands, lost], _, ran⟩
  · next fine =>
    split
    · next raised ran => exact .inl ⟨rfl, fun _ => ⟨raised, ran⟩⟩
    · next performed ran => exact .inr ⟨by simp [Draw.lands, fine], _, ran⟩

/-! ### Standings -/

theorem put_eq_updateJob (found : s.jobs.find id = some job) :
    { s with jobs := s.jobs.put id (f job) } = s.updateJob id f := by
  rw [Store.updateJob, found]

theorem recover_change (clear : Pass.clear config s ⟨left, .recovering⟩ = true) (id : Uuid) :
    Change config.maxRetries given (s.standing id) (((s.jobs.find id).map fun job =>
      if job.stale config.stalePreparingMinutes s.now then job.recover s.now else job).map Job.standing) := by
  unfold Store.standing
  cases found : s.jobs.find id with
  | none => exact .kept none
  | some job =>
    simp only [Option.map_some]
    split
    · next stale =>
      have left : job.retryCount < config.maxRetries := by
        have spared := Table.holds_eq_false.mp (Bool.not_eq_true' _ |>.mp clear) id job found
        simpa [stale] using spared
      have preparing : job.status = .preparing := by
        simp only [Job.stale, Bool.and_eq_true, decide_eq_true_eq] at stale
        exact stale.1.1
      exact .requeued _ _ _ (by rw [preparing]; rfl) left
    · exact .kept _

theorem fail_change {failure : String} (found : s.jobs.find work.id = some job)
    (clear : Pass.clear config s ⟨left, .failing work failure⟩ = true) : Change config.maxRetries given
      (some job.standing) (some (job.failOrRetry (work.retries config.maxRetries) failure hours now).standing) := by
  simp only [Pass.clear, found, Option.all_some, Bool.and_eq_true, decide_eq_true_eq] at clear
  cases retry : work.retries config.maxRetries with
  | false => exact .failed _ _ _ clear.1
  | true =>
    have left : job.status.active = true ∧ job.retryCount < config.maxRetries := by simpa [retry] using clear.2
    exact .requeued _ _ _ left.1 left.2

theorem written_change (written : Written config draw s pass.phase s') (clear : pass.clear config s = true)
    (id : Uuid) : Change config.maxRetries given (s.standing id) (s'.standing id) := by
  obtain ⟨left, phase⟩ := pass
  cases written with
  | nothing | expired | retired => exact .kept _
  | recovered =>
    simp only [Store.standing, Table.find_amend]
    exact recover_change clear id
  | claimed found claimable =>
    next job key =>
    simp only [Store.standing, Table.find_put]
    by_cases same : id = key
    · subst same
      rw [if_pos rfl, found, Option.map_some, Option.map_some, claimable_standing claimable]
      have taken : (job.claim s.now).standing = ⟨.preparing, job.retryCount, false⟩ := by
        have before := congrArg Standing.cancellationRequested (claimable_standing claimable)
        simp only [Job.standing] at before
        simp [Job.standing, Job.claim, before]
      rw [taken]
      exact .claimed _
    · rw [if_neg same]
      exact .kept _
  | marked => exact change_updateJob (fun job _ => .marked _ _ _) id
  | progressed | released => exact change_keeping id fun _ => by rfl
  | persisted =>
    next work _ =>
    have kept : (s.upsertPackage work draw.files draw.packageId).standing id = s.standing id := rfl
    rw [← kept]
    refine change_updateJob (fun job found => ?_) id
    have found : s.jobs.find work.id = some job := found
    simp only [Pass.clear, found, Option.all_some, decide_eq_true_eq] at clear
    exact .readied _ _ _ clear
  | failed found =>
    rw [put_eq_updateJob found]
    refine change_updateJob (fun job held => ?_) id
    cases found.symm.trans held
    exact fail_change found clear
  | cleaned =>
    simp only [Store.standing, updatePackage_jobs]
    exact .kept _

/-- `cancel_download_job` leaves a finished job as it is and cancels any other. -/
theorem cancel_change (n : Int) (given : Prop) (reason : String) (now : Time) (job : Job) :
    Change n given (some job.standing) (some (job.cancel reason now).standing) := by
  cases active : job.status.active with
  | true =>
    have cancelled : (job.cancel reason now).standing = ⟨.cancelled, job.retryCount, true⟩ := by
      simp [Job.standing, Job.cancel, active]
    rw [cancelled]
    exact .cancelled _ _ _ active
  | false =>
    have same : (job.cancel reason now).standing = ⟨job.status, job.retryCount, true⟩ := by
      simp [Job.standing, Job.cancel, active]
    rw [same]
    exact .asked _ _ _ active

theorem cancelDownloadJob_cases (ran : cancelDownloadJob userId id reason s = .ok (s', answer)) :
    ∃ job, s.jobs.find id = some job ∧
      s' = { s with jobs := s.jobs.put id (job.cancel (reason.getD "cancelled by user") s.now) } ∧
      answer = (job.cancel (reason.getD "cancelled by user") s.now).status := by
  unfold cancelDownloadJob at ran
  split at ran
  · cases ran
  · next job found =>
    cases ran
    exact ⟨job, (Option.filter_eq_some_iff.mp found).1, rfl, rfl⟩

theorem apply_cancel (userId key : Uuid) (reason : Option String) (s : Store) :
    Action.apply s (.cancel userId key reason) = s ∨
      ∃ text, Action.apply s (.cancel userId key reason) = s.updateJob key (Job.cancel text s.now) := by
  simp only [Action.apply]
  cases ran : cancelDownloadJob userId key reason s with
  | error => exact .inl rfl
  | ok answered =>
    obtain ⟨s', answer⟩ := answered
    obtain ⟨job, found, rfl, -⟩ := cancelDownloadJob_cases ran
    exact .inr ⟨_, put_eq_updateJob found⟩

theorem apply_change (n : Int) (given : Prop) (action : Action) (s : Store) (id : Uuid) :
    Change n given (s.standing id) ((action.apply s).standing id) := by
  cases action with
  | cancel userId key reason =>
    obtain same | ⟨text, same⟩ := apply_cancel userId key reason s <;> rw [same]
    · exact .kept _
    · exact change_updateJob (fun job _ => cancel_change n given _ _ job) id
  | revokeJob =>
    refine change_updateJob (fun job _ => ?_) id
    split
    · next ready =>
      have before : job.standing = ⟨.ready, job.retryCount, job.cancellationRequested⟩ := by
        simp [Job.standing, ready]
      rw [before]
      exact .revoked _ _
    · exact .kept _
  | deletePackage key =>
    simp only [Action.apply, Store.deletePackage]
    split
    · exact .kept _
    · next package _ =>
      have kept : (s.updatePackage key (Package.delete s.now)).standing id = s.standing id := by
        simp [Store.standing]
      rw [← kept]
      exact change_keeping id fun _ => by rfl
  | renewJob => exact change_keeping id fun _ => by rfl
  | loseFile file =>
    have kept : (s.loseFile file).standing id = s.standing id := by
      simp only [Store.standing, Store.loseFile, Table.find_amend, Option.map_map]
      congr 1
      funext job
      simp only [Function.comp_apply]
      split <;> rfl
    simp only [Action.apply, kept]
    exact .kept _
  | removeJob =>
    simp only [Action.apply, Store.standing, Store.removeJob, Table.find_remove]
    split
    · exact .removed _
    · exact .kept _
  | serve | expire | revoke | renew =>
    simp only [Action.apply, Store.standing, updatePackage_jobs]
    exact .kept _
  | request | proceed | launch | work | drop => exact .kept _

end

/-! ### The system -/

section
variable {config : Config} {sys : System} {move : Move} {id : Uuid}

/-- Every job has an identity that was given out. -/
def Known (sys : System) : Prop := ∀ id job, sys.store.jobs.find id = some job → id ∈ sys.store.issued

@[simp] theorem advance_standing (sys : System) (elapsed : Nat) (id : Uuid) :
    (advance sys elapsed).store.standing id = sys.store.standing id := rfl

/-- The action is no INSERT of a call and no statement of a pass that takes effect. -/
structure Idle (config : Config) (sys : System) (action : Action) : Prop where
  call : ∀ call key request, action = .proceed call key → sys.requests.find call = some request →
    request.checks = [] → key ∈ sys.store.issued
  pass : ∀ number draw pass, action = .work number draw → sys.passes.find number = some pass →
    draw.lands = true → ∃ raised, pass.statement config.worker draw sys.store = .error raised

theorem proceed_cases {request : Request} (ran : request.proceed downloads key s = .ok (s', rest)) :
    s' = s ∧ request.checks ≠ [] ∨ request.checks = [] ∧ key ∉ s.issued ∧ s' = insertJob request key s := by
  unfold Request.proceed at ran
  split at ran
  · next checks =>
    split at ran
    · cases ran
    · cases ran
      exact .inl ⟨rfl, by simp [checks]⟩
  · next done =>
    split at ran
    · cases ran
    · next fresh =>
      cases ran
      exact .inr ⟨done, fresh, rfl⟩

/-- What a move writes: the INSERT of a call, the statement of a pass, or an action of its
own. -/
theorem act_store (config : Config) (sys : System) (action : Action) :
    (∃ call key request, action = .proceed call key ∧ sys.requests.find call = some request ∧
        request.checks = [] ∧ key ∉ sys.store.issued ∧
        (act config sys action).store = insertJob request key sys.store) ∨
      (∃ number draw pass pass', action = .work number draw ∧ sys.passes.find number = some pass ∧
        draw.lands = true ∧ pass.statement config.worker draw sys.store = .ok ((act config sys action).store, pass')) ∨
      (act config sys action).store = action.apply sys.store ∧ Idle config sys action := by
  cases action with
  | proceed call key =>
    have idle (still : ∀ request, sys.requests.find call = some request → request.checks = [] → key ∈ sys.store.issued) :
        Idle config sys (.proceed call key) := by
      constructor
      · rintro _ _ request ⟨⟩
        exact still request
      · rintro _ _ _ ⟨⟩
    simp only [act]
    split
    · next absent => exact .inr (.inr ⟨rfl, idle fun request found => by cases absent.symm.trans found⟩)
    · next request found =>
      cases ran : request.proceed (config.downloads request.userId) key sys.store with
      | error =>
        refine .inr (.inr ⟨rfl, idle fun other held done => ?_⟩)
        cases found.symm.trans held
        by_contra fresh
        simp [Request.proceed, done, fresh] at ran
      | ok result =>
        obtain ⟨s', rest⟩ := result
        obtain ⟨rfl, pending⟩ | ⟨done, fresh, rfl⟩ := proceed_cases ran
        · refine .inr (.inr ⟨by cases rest <;> rfl, idle fun other held done => ?_⟩)
          cases found.symm.trans held
          exact (pending done).elim
        · exact .inl ⟨call, key, request, rfl, found, done, fresh, by cases rest <;> rfl⟩
  | work number draw =>
    have idle (still : ∀ pass, sys.passes.find number = some pass → draw.lands = true →
        ∃ raised, pass.statement config.worker draw sys.store = .error raised) :
        Idle config sys (.work number draw) := by
      constructor
      · rintro _ _ _ ⟨⟩
      · rintro _ _ pass ⟨⟩
        exact still pass
    simp only [act]
    split
    · next absent => exact .inr (.inr ⟨rfl, idle fun pass found => by cases absent.symm.trans found⟩)
    · next pass found =>
      obtain ⟨same, still⟩ | ⟨lands, pass', ran⟩ := perform_cases config.worker draw sys.store pass
      · refine .inr (.inr ⟨same, idle fun other held => ?_⟩)
        cases found.symm.trans held
        exact still
      · exact .inr (.inl ⟨number, draw, pass, pass', rfl, found, lands, ran⟩)
  | request | launch | drop | cancel | serve | expire | revoke | revokeJob | deletePackage | renew | renewJob
  | loseFile | removeJob =>
    refine .inr (.inr ⟨rfl, ?_, ?_⟩)
    · rintro _ _ _ ⟨⟩
    · rintro _ _ _ ⟨⟩

variable {draw : Draw} {phase : Phase} {s s' : Store}

theorem written_issued {config : WorkerConfig} (written : Written config draw s phase s') : s'.issued = s.issued := by
  cases written with
  | nothing | recovered | claimed | failed | expired | retired => rfl
  | marked | progressed | cleaned | released => simp
  | persisted => simp [Store.upsertPackage]

theorem apply_issued (action : Action) (s : Store) : (action.apply s).issued = s.issued := by
  cases action with
  | cancel userId key reason =>
    obtain same | ⟨text, same⟩ := apply_cancel userId key reason s <;> simp [same]
  | deletePackage =>
    simp only [Action.apply, Store.deletePackage]
    split
    · rfl
    · simp
  | serve | expire | revoke | renew | renewJob | revokeJob => simp [Action.apply]
  | loseFile | removeJob | request | proceed | launch | work | drop => rfl

theorem present_updateJob (s : Store) (key id : Uuid) (f : Job → Job) :
    ((s.updateJob key f).jobs.find id).isSome = (s.jobs.find id).isSome := by
  rw [find_updateJob]
  split
  · exact Option.isSome_map
  · rfl

theorem present_put (found : s.jobs.find key = some old)
    (held : ((s.jobs.put key new).find id).isSome = true) : (s.jobs.find id).isSome = true := by
  rw [Table.find_put] at held
  split at held
  · next same => rw [same, found, Option.isSome_some]
  · exact held

/-- A pass creates no job. -/
theorem written_present {config : WorkerConfig}
    (written : Written config draw s phase s') (held : (s'.jobs.find id).isSome = true) :
    (s.jobs.find id).isSome = true := by
  cases written with
  | recovered => rwa [Table.find_amend, Option.isSome_map] at held
  | failed found | claimed found => exact present_put found held
  | nothing | expired | retired => exact held
  | marked | progressed | persisted | released => rwa [present_updateJob] at held
  | cleaned => rwa [updatePackage_jobs] at held

theorem Change.not_created : ¬ Change n True none (some new) := by
  intro change
  generalize shape : some new = result at change
  cases change with
  | kept | removed => cases shape
  | created fresh => exact fresh trivial

theorem apply_present {action : Action} (held : ((action.apply s).jobs.find id).isSome = true) :
    (s.jobs.find id).isSome = true := by
  by_contra absent
  obtain ⟨job, found⟩ := Option.isSome_iff_exists.mp held
  have change := apply_change 0 True action s id
  rw [Store.standing, Store.standing, found, Option.not_isSome_iff_eq_none.mp absent] at change
  exact Change.not_created change

theorem next_known (known : Known sys) (config : Config) (move : Move) : Known (next config sys move) := by
  intro id job held
  have present := Option.isSome_iff_exists.mpr ⟨job, held⟩
  have before {s : Store} (kept : s = (advance sys move.elapsed).store) (found : (s.jobs.find id).isSome = true) :
      id ∈ sys.store.issued := by
    subst kept
    obtain ⟨old, row⟩ := Option.isSome_iff_exists.mp found
    exact known id old row
  obtain ⟨call, key, request, -, -, -, -, same⟩ | ⟨number, draw, pass, pass', -, -, -, ran⟩ | ⟨same, -⟩ :=
    act_store config (advance sys move.elapsed) move.action
  · rw [next, same] at held ⊢
    simp only [insertJob, Table.find_put] at held
    by_cases own : id = key
    · exact List.mem_cons.mpr (.inl own)
    · rw [if_neg own] at held
      exact List.mem_cons_of_mem _ (known id job held)
  · have written := statement_written ran
    rw [next, written_issued written]
    exact before rfl (written_present written present)
  · rw [next, same] at present ⊢
    rw [apply_issued]
    exact before rfl (apply_present present)

/-- Identities given out stay given out. -/
theorem next_issued (config : Config) (move : Move) (given : id ∈ sys.store.issued) :
    id ∈ (next config sys move).store.issued := by
  obtain ⟨call, key, request, -, -, -, -, same⟩ | ⟨number, draw, pass, pass', -, -, -, ran⟩ | ⟨same, -⟩ :=
    act_store config (advance sys move.elapsed) move.action
  · rw [next, same]
    exact List.mem_cons_of_mem _ given
  · have written := statement_written ran
    rw [next, written_issued written]
    exact given
  · rw [next, same, apply_issued]
    exact given

/-- A job with an identity that is not given out yet is not there. -/
theorem Known.absent (known : Known sys) (fresh : id ∉ sys.store.issued) : sys.store.jobs.find id = none := by
  by_contra present
  obtain ⟨job, held⟩ := Option.ne_none_iff_exists'.mp present
  exact fresh (known id job held)

/-- A move creates one job under a new identity, or changes jobs and gives out none. -/
theorem next_cases (met : clear config sys move = true) :
    (∃ key request, key ∉ sys.store.issued ∧
        (next config sys move).store = insertJob request key (advance sys move.elapsed).store) ∨
      (next config sys move).store.issued = sys.store.issued ∧
        ∀ id, Change config.worker.maxRetries True (sys.store.standing id)
          ((next config sys move).store.standing id) := by
  obtain ⟨call, key, request, -, -, -, fresh, same⟩ | ⟨number, draw, pass, pass', asked, found, lands, ran⟩ | ⟨same, -⟩ :=
    act_store config (advance sys move.elapsed) move.action
  · exact .inl ⟨key, request, fresh, same⟩
  · have passClear : pass.clear config.worker (advance sys move.elapsed).store = true := by
      have held : sys.passes.find number = some pass := found
      simpa [clear, asked, lands, held] using met
    have written := statement_written ran
    have kept := written_issued written
    have changed : ∀ id, Change config.worker.maxRetries True _ _ := fun id => written_change written passClear id
    exact .inr ⟨kept, changed⟩
  · have kept := apply_issued move.action (advance sys move.elapsed).store
    have changed := fun id =>
      apply_change config.worker.maxRetries True move.action (advance sys move.elapsed).store id
    rw [next, same]
    exact .inr ⟨kept, changed⟩

theorem Change.weaken {given : Prop} (change : Change n True old new) : Change n given old new := by
  cases change with
  | kept => exact .kept _
  | created fresh => exact (fresh trivial).elim
  | removed => exact .removed _
  | claimed => exact .claimed _
  | cancelled _ _ _ active => exact .cancelled _ _ _ active
  | asked _ _ _ finished => exact .asked _ _ _ finished
  | marked => exact .marked _ _ _
  | readied _ _ _ uncancelled => exact .readied _ _ _ uncancelled
  | requeued _ _ _ active left => exact .requeued _ _ _ active left
  | failed _ _ _ uncancelled => exact .failed _ _ _ uncancelled
  | revoked => exact .revoked _ _

theorem next_change (known : Known sys) (met : clear config sys move = true) (id : Uuid) :
    Change config.worker.maxRetries (id ∈ sys.store.issued) (sys.store.standing id)
      ((next config sys move).store.standing id) := by
  obtain ⟨key, request, fresh, same⟩ | ⟨-, change⟩ := next_cases met
  · rw [same, ← advance_standing sys move.elapsed]
    simp only [Store.standing, insertJob, Table.find_put]
    by_cases own : id = key
    · subst own
      have absent : (advance sys move.elapsed).store.jobs.find id = none := known.absent fresh
      rw [absent, if_pos rfl]
      exact .created fresh
    · rw [if_neg own]
      exact .kept _
  · exact (change id).weaken

/-! ### Ready packages -/

/-- The package is one of the job and is ready. -/
def ReadyOf (s : Store) (package id : Uuid) : Prop :=
  ∃ row, s.packages.find package = some row ∧ row.downloadJobId = id ∧ row.status = .ready

variable {package : Uuid}

theorem ready_updatePackage
    (kept : ∀ row, (f row).downloadJobId = row.downloadJobId) (late : ∀ row, (f row).status = .ready → row.status = .ready)
    (ready : ReadyOf (s.updatePackage key f) package id) : ReadyOf s package id := by
  obtain ⟨row, found, own, fine⟩ := ready
  unfold Store.updatePackage at found
  split at found
  · exact ⟨row, found, own, fine⟩
  · next old held =>
    rw [Table.find_put] at found
    split at found
    · next same =>
      cases found
      subst same
      exact ⟨old, held, kept old ▸ own, late old fine⟩
    · exact ⟨row, found, own, fine⟩

theorem ready_amend {f : Package → Package}
    (kept : ∀ row, (f row).downloadJobId = row.downloadJobId) (late : ∀ row, (f row).status = .ready → row.status = .ready)
    (ready : ReadyOf { s with packages := s.packages.amend fun _ row => f row } package id) : ReadyOf s package id := by
  obtain ⟨row, found, own, fine⟩ := ready
  rw [Table.find_amend] at found
  obtain ⟨old, held, rfl⟩ := Option.map_eq_some_iff.mp found
  exact ⟨old, held, kept old ▸ own, late old fine⟩

theorem packageRow_job (s : Store) (work : DownloadJobWork) (files : List PackageFile) (key : Uuid) :
    (s.packageRow work files key).2.downloadJobId = work.id := by
  unfold Store.packageRow
  dsimp only
  split
  · rfl
  · next row =>
    obtain ⟨held, chosen, paired⟩ := Option.bind_eq_some_iff.mp row
    obtain ⟨package, found, pair⟩ := Option.map_eq_some_iff.mp paired
    obtain ⟨rfl, rfl⟩ := Prod.mk.inj pair
    obtain ⟨old, again, same⟩ := Table.mem_select.mp (List.mem_of_head? chosen)
    rw [found] at again
    cases again
    exact of_decide_eq_true same

theorem ready_upsertPackage
    (ready : ReadyOf (s.upsertPackage work files key) package id) : ReadyOf s package id ∨ id = work.id := by
  obtain ⟨row, found, own, fine⟩ := ready
  simp only [Store.upsertPackage, Table.find_put] at found
  split at found
  · cases found
    exact .inr (own.symm.trans (packageRow_job s work files key))
  · exact .inl ⟨row, found, own, fine⟩

/-- Only `persist_ready_package` makes a package ready, and only one of its own job. -/
theorem written_ready {config : WorkerConfig}
    (written : Written config draw s phase s') (ready : ReadyOf s' package id) :
    ReadyOf s package id ∨ ∃ work, phase = .processing work .persisting ∧ id = work.id ∧
      (s.jobs.find id).isSome = true := by
  cases written with
  | persisted present =>
    next work =>
    have upserted : ReadyOf (s.upsertPackage work draw.files draw.packageId) package id := by
      simpa [ReadyOf] using ready
    obtain before | own := ready_upsertPackage upserted
    · exact .inl before
    · exact .inr ⟨work, rfl, own, own ▸ Option.isSome_iff_exists.mpr present⟩
  | expired | retired =>
    refine .inl (ready_amend (fun row => ?_) (fun row fine => ?_) ready)
    · split <;> rfl
    · split at fine
      · cases fine
      · exact fine
  | cleaned =>
    refine .inl (ready_updatePackage ?_ ?_ ready)
    · intro row
      rfl
    · intro row fine
      cases fine
  | nothing | recovered | claimed | failed => exact .inl ready
  | marked | progressed | released => exact .inl (by simpa [ReadyOf] using ready)

theorem apply_ready {action : Action} (ready : ReadyOf (action.apply s) package id) : ReadyOf s package id := by
  cases action with
  | cancel userId key reason =>
    obtain same | ⟨text, same⟩ := apply_cancel userId key reason s <;> simpa [same, ReadyOf] using ready
  | serve =>
    refine ready_updatePackage (f := Package.serve s.now) (fun _ => rfl) (fun row fine => ?_) ready
    simp only [Package.serve] at fine
    split at fine
    · cases fine
    · exact fine
  | expire | revoke =>
    refine ready_updatePackage (fun row => ?_) (fun row fine => ?_) ready
    · split <;> rfl
    · split at fine
      · cases fine
      · exact fine
  | renew =>
    refine ready_updatePackage (fun row => ?_) (fun row fine => ?_) ready
    · split <;> rfl
    · split at fine <;> exact fine
  | deletePackage key =>
    simp only [Action.apply, Store.deletePackage] at ready
    split at ready
    · exact ready
    · have updated : ReadyOf (s.updatePackage key (Package.delete s.now)) package id := by
        simpa [ReadyOf] using ready
      refine ready_updatePackage (fun row => ?_) (fun row fine => ?_) updated
      · unfold Package.delete
        split <;> rfl
      · unfold Package.delete at fine
        split at fine
        · exact fine
        · cases fine
  | removeJob =>
    obtain ⟨row, found, own, fine⟩ := ready
    exact ⟨row, (Table.find_discard.mp found).1, own, fine⟩
  | revokeJob | renewJob => simpa [Action.apply, ReadyOf] using ready
  | loseFile | request | proceed | launch | work | drop => exact ready

theorem next_ready (met : clear config sys move = true)
    (stands : ∀ now, sys.store.standing id = some now → now.status = .cancelled)
    (ready : ReadyOf (next config sys move).store package id) : ReadyOf sys.store package id := by
  obtain ⟨call, key, request, -, -, -, -, same⟩ | ⟨number, draw, pass, pass', asked, found, lands, ran⟩ | ⟨same, -⟩ :=
    act_store config (advance sys move.elapsed) move.action
  · rw [next, same] at ready
    exact ready
  · obtain before | ⟨work, phase, own, present⟩ := written_ready (statement_written ran) ready
    · exact before
    · have held : sys.passes.find number = some pass := found
      obtain ⟨job, row⟩ := Option.isSome_iff_exists.mp present
      have cancelled := stands job.standing (by simpa [Store.standing] using ⟨job, row, rfl⟩)
      subst own
      have uncancelled : job.status ≠ .cancelled := by
        simpa [clear, asked, lands, held, Pass.clear, phase, row] using met
      exact (uncancelled cancelled).elim
  · rw [next, same] at ready
    exact apply_ready (s := (advance sys move.elapsed).store) ready

/-! ## Along a run -/

/-- Once given out, the identity names no job for which `P` fails. -/
structure Always (P : Standing → Prop) (id : Uuid) (sys : System) : Prop where
  known : Known sys
  issued : id ∈ sys.store.issued
  holds : ∀ standing, sys.store.standing id = some standing → P standing

/-- A property of a job that no change breaks holds for good. -/
theorem Always.next (always : Always P id sys) (met : clear config sys move = true)
    (kept : ∀ old new, P old → Change config.worker.maxRetries True (some old) (some new) → P new) :
    Always P id (next config sys move) := by
  refine ⟨next_known always.known config move, next_issued config move always.issued, fun new after => ?_⟩
  have change := next_change always.known met id
  rw [after] at change
  have given : Change config.worker.maxRetries True (sys.store.standing id) (some new) := by
    simpa only [always.issued] using change
  cases before : sys.store.standing id with
  | none =>
    rw [before] at given
    exact (Change.not_created given).elim
  | some old =>
    rw [before] at given
    exact kept old new (always.holds old before) given

theorem Change.stays_cancelled {old new : Standing} (cancelled : old.status = .cancelled)
    (change : Change n True (some old) (some new)) : new.status = .cancelled := by
  generalize before : some old = job, after : some new = job' at change
  cases change with
  | kept | asked => cases before; cases after; exact cancelled
  | created => cases before
  | removed => cases after
  | claimed | revoked => cases before; cases cancelled
  | cancelled | marked => cases after; rfl
  | readied _ _ _ uncancelled | failed _ _ _ uncancelled => cases before; exact (uncancelled cancelled).elim
  | requeued _ _ _ active => cases before; simp only at cancelled; subst cancelled; cases active

theorem Change.stays_finished {old new : Standing} (finished : old.status.active = false)
    (change : Change n True (some old) (some new)) : new.status.active = false := by
  generalize before : some old = job, after : some new = job' at change
  cases change with
  | kept => cases before; cases after; exact finished
  | created => cases before
  | removed => cases after
  | claimed => cases before; cases finished
  | requeued _ _ _ active => cases before; exact (Bool.false_ne_true (finished.symm.trans active)).elim
  | asked => cases after; assumption
  | cancelled | marked | readied | failed | revoked => cases after; rfl

theorem Change.asked_finished {given : Prop}
    (before : ∀ standing, old = some standing → standing.cancellationRequested = true →
      standing.status.active = false)
    (change : Change n given old (some new)) (asked : new.cancellationRequested = true) :
    new.status.active = false := by
  generalize after : some new = job' at change
  cases change with
  | kept => exact before new after.symm asked
  | removed => cases after
  | created | claimed => cases after; cases asked
  | asked => cases after; assumption
  | requeued _ _ _ active =>
    cases after
    exact (Bool.false_ne_true ((before _ rfl asked).symm.trans active)).elim
  | cancelled | marked | readied | failed | revoked => cases after; rfl

/-! ### Claims -/

/-- The move is a claim that takes the job. -/
def claims (id : Uuid) (sys : System) (move : Move) : Bool :=
  match move.action with
  | .work number draw => draw.lands && (sys.passes.find number).any fun pass =>
      pass.phase = .claiming &&
        ((claimNextJob draw.locked (advance sys move.elapsed).store).toOption.bind Prod.snd).any fun work =>
          work.id = id
  | _ => false

/-- The claims a job has left. -/
def claimsLeft (maxRetries : Int) : Option Standing → Bool → Nat
  | some ⟨.queued, count, _⟩, _ => (maxRetries - count).toNat + 1
  | some ⟨.preparing, count, _⟩, _ => (maxRetries - count).toNat
  | some _, _ => 0
  | none, issued => if issued then 0 else maxRetries.toNat + 1

def System.claimsLeft (sys : System) (maxRetries : Int) (id : Uuid) : Nat :=
  Downloads.claimsLeft maxRetries (sys.store.standing id) (decide (id ∈ sys.store.issued))

theorem claimsLeft_active {status : JobStatus} (active : status.active = true) :
    (n - count).toNat ≤ claimsLeft n (some ⟨status, count, asked⟩) given := by
  cases status with
  | queued => exact Nat.le_succ _
  | preparing => exact Nat.le_refl _
  | ready | failed | cancelled | expired | revoked => cases active

theorem claimsLeft_finished {status : JobStatus}
    (finished : status.active = false) : claimsLeft n (some ⟨status, count, asked⟩) given = 0 := by
  cases status with
  | queued | preparing => cases finished
  | ready | failed | cancelled | expired | revoked => rfl

theorem Change.claimsLeft_le (change : Change n (given = true) old new) (grows : given = true → given' = true)
    (known : old ≠ none → given = true) : claimsLeft n new given' ≤ claimsLeft n old given := by
  cases change with
  | kept =>
    cases old with
    | some standing =>
      obtain ⟨status, count, asked⟩ := standing
      cases status <;> exact Nat.le_refl _
    | none =>
      cases given with
      | true => simp [claimsLeft, grows rfl]
      | false => cases given' <;> simp [claimsLeft]
  | created fresh =>
    cases given with
    | true => exact (fresh rfl).elim
    | false => simp [claimsLeft]
  | removed =>
    cases given with
    | true => simp [claimsLeft, grows rfl]
    | false =>
      have absent : old = none := by
        by_contra present
        exact Bool.false_ne_true (known present)
      subst absent
      cases given' <;> simp [claimsLeft]
  | claimed => exact Nat.le_succ _
  | asked _ _ _ finished => simp [claimsLeft_finished finished]
  | requeued _ _ _ active =>
    refine le_trans ?_ (claimsLeft_active active)
    simp only [claimsLeft]
    omega
  | cancelled | marked | readied | failed | revoked => exact Nat.zero_le _

theorem standing_ne_none (known : Known sys) (present : sys.store.standing id ≠ none) : id ∈ sys.store.issued := by
  obtain ⟨standing, held⟩ := Option.ne_none_iff_exists'.mp present
  obtain ⟨job, found, -⟩ := Option.map_eq_some_iff.mp held
  exact known id job found

/-- A claim takes a queued job and leaves it preparing. -/
theorem claims_standing (config : Config) (claimed : claims id sys move = true) :
    ∃ count, sys.store.standing id = some ⟨.queued, count, false⟩ ∧
      (next config sys move).store.standing id = some ⟨.preparing, count, false⟩ := by
  unfold claims at claimed
  split at claimed
  · next number draw asked =>
    simp only [Bool.and_eq_true] at claimed
    obtain ⟨lands, chosen⟩ := claimed
    obtain ⟨pass, found, phase, taken⟩ : ∃ pass, sys.passes.find number = some pass ∧ pass.phase = .claiming ∧
        ((claimNextJob draw.locked (advance sys move.elapsed).store).toOption.bind Prod.snd).any
          (fun work => work.id = id) = true := by
      simpa [Option.any_eq_true] using chosen
    cases ran : claimNextJob draw.locked (advance sys move.elapsed).store with
    | error => simp [ran, Except.toOption] at taken
    | ok result =>
      obtain ⟨s', work⟩ := result
      obtain ⟨rfl, -⟩ | ⟨job, work, rfl, row, claimable, rfl⟩ := claimNextJob_cases ran
      · simp [ran, Except.toOption] at taken
      · have own : work.id = id := by simpa [ran, Except.toOption] using taken
        subst own
        have standing := claimable_standing claimable
        refine ⟨job.retryCount, ?_, ?_⟩
        · rw [← standing, ← advance_standing sys move.elapsed, Store.standing, row, Option.map_some]
        · have performed : (next config sys move).store =
              { (advance sys move.elapsed).store with
                jobs := (advance sys move.elapsed).store.jobs.put work.id
                  (job.claim (advance sys move.elapsed).store.now) } := by
            have held : (advance sys move.elapsed).passes.find number = some pass := found
            have step : pass.statement config.worker draw (advance sys move.elapsed).store =
                .ok ({ (advance sys move.elapsed).store with
                  jobs := (advance sys move.elapsed).store.jobs.put work.id
                    (job.claim (advance sys move.elapsed).store.now) }, ⟨pass.left - 1, .starting work⟩) := by
              rw [Pass.statement, phase]
              simp only [ran]
              rfl
            rw [next, asked, act, held]
            simp only [Pass.perform, step]
            cases outcome : draw.fault with
            | none => rfl
            | some fault =>
              cases fault with
              | refused => simp [Draw.lands, outcome] at lands
              | lost => rfl
          rw [performed, Store.standing, Table.find_put_self, Option.map_some]
          have flag := congrArg Standing.cancellationRequested standing
          simp only [Job.standing] at flag
          simp [Job.standing, Job.claim, flag]
  · cases claimed

theorem claims_spend (known : Known sys) (met : clear config sys move = true) (id : Uuid) :
    (claims id sys move).toNat + (next config sys move).claimsLeft config.worker.maxRetries id ≤
      sys.claimsLeft config.worker.maxRetries id := by
  cases claimed : claims id sys move with
  | true =>
    obtain ⟨count, before, after⟩ := claims_standing config claimed
    simp only [System.claimsLeft, before, after, claimsLeft, Bool.toNat_true]
    omega
  | false =>
    have change : Change config.worker.maxRetries (decide (id ∈ sys.store.issued) = true)
        (sys.store.standing id) ((next config sys move).store.standing id) := by
      simpa only [decide_eq_true_eq] using next_change known met id
    rw [Bool.toNat_false, Nat.zero_add]
    refine change.claimsLeft_le (fun given => ?_) (fun present => ?_)
    · exact decide_eq_true (next_issued config move (of_decide_eq_true given))
    · exact decide_eq_true (standing_ne_none known present)

/-! ### The law of a job -/

/-- The status `cancel_download_job` answers with. -/
def answered (sys : System) (move : Move) : Option (Uuid × JobStatus) :=
  match move.action with
  | .cancel userId id reason =>
    (cancelDownloadJob userId id reason (advance sys move.elapsed).store).toOption.map fun answer => (id, answer.2)
  | _ => none

def run (config : Config) (moves : List Move) : System := moves.foldl (next config) System.initial

/-- What a run promises about download jobs. -/
structure JobLaw (config : Config) (moves : List Move) : Prop where
  /-- Once answered `cancelled` a job stays cancelled, and no package of it becomes ready. -/
  cancelled : ∀ id earlier move middle later, moves = earlier ++ move :: (middle ++ later) →
    answered (run config earlier) move = some (id, .cancelled) →
      (∀ job, (run config moves).store.jobs.find id = some job → job.status = .cancelled) ∧
      ∀ package, ReadyOf (run config moves).store package id →
        ReadyOf (run config (earlier ++ move :: middle)).store package id
  /-- A finished job is never queued or prepared again. -/
  finished : ∀ id earlier later old job, moves = earlier ++ later →
    (run config earlier).store.jobs.find id = some old → old.status.active = false →
      (run config moves).store.jobs.find id = some job → job.status.active = false
  /-- Every queued job can be claimed. -/
  claimable : ∀ id job, (run config moves).store.jobs.find id = some job → job.status = .queued →
    job.cancellationRequested = false
  /-- A job is claimed at most once more than it may be retried. -/
  claimed : ∀ id, (occurrences (next config) (claims id) System.initial moves : Int) ≤ config.worker.maxRetries + 1

theorem initial_known : Known System.initial := by
  intro id job found
  cases found

/-- A property that every clear change keeps holds along the rest of a run. -/
theorem Always.run (always : Always P id sys)
    (met : Throughout (Downloads.next config) (fun sys move => clear config sys move = true) sys moves)
    (kept : ∀ old new, P old → Change config.worker.maxRetries True (some old) (some new) → P new) :
    Always P id (moves.foldl (Downloads.next config) sys) :=
  met.preserves (fun _ _ clear always => always.next clear kept) always

theorem answered_cancelled (config : Config) (known : Known sys) (answer : answered sys move = some (id, .cancelled)) :
    Always (fun standing => standing.status = .cancelled) id (next config sys move) := by
  unfold answered at answer
  split at answer
  · next userId key reason asked =>
    obtain ⟨result, ran, same⟩ := Option.map_eq_some_iff.mp answer
    obtain ⟨rfl, status⟩ := Prod.mk.inj same
    cases outcome : cancelDownloadJob userId key reason (advance sys move.elapsed).store with
    | error => simp [outcome, Except.toOption] at ran
    | ok written =>
      obtain ⟨s', answer⟩ := written
      obtain rfl : (s', answer) = result := by simpa [outcome, Except.toOption] using ran
      obtain ⟨job, found, stored, answered⟩ := cancelDownloadJob_cases outcome
      have after : (next config sys move).store = s' := by
        simp [next, asked, act, Action.apply, outcome, Except.toOption]
      refine ⟨next_known known config move, next_issued config move (known key job found), fun standing held => ?_⟩
      rw [after, stored, Store.standing, Table.find_put_self, Option.map_some] at held
      cases held
      exact answered.symm.trans status
  · cases answer

/-- Jobs whose cancellation is asked for are finished. -/
structure Withdrawn (id : Uuid) (sys : System) : Prop where
  known : Known sys
  finished : ∀ standing, sys.store.standing id = some standing → standing.cancellationRequested = true →
    standing.status.active = false

theorem initial_withdrawn (id : Uuid) : Withdrawn id System.initial := by
  refine ⟨initial_known, fun standing held => ?_⟩
  cases held

theorem Withdrawn.next (held : Withdrawn id sys) (met : clear config sys move = true) :
    Withdrawn id (next config sys move) := by
  refine ⟨next_known held.known config move, fun standing after asked => ?_⟩
  have change := next_change held.known met id
  rw [after] at change
  exact change.asked_finished held.finished asked

section
variable {moves : List Move}

theorem run_append (config : Config) (left right : List Move) :
    run config (left ++ right) = right.foldl (next config) (run config left) := List.foldl_append

theorem run_known (config : Config) (moves : List Move) : Known (run config moves) := by
  induction moves using List.reverseRecOn with
  | nil => exact initial_known
  | append_singleton _ move ih =>
    rw [run_append]
    exact next_known ih config move

theorem cancelled_ready (met : Throughout (next config) (fun sys move => clear config sys move = true) sys moves)
    (always : Always (fun standing => standing.status = .cancelled) id sys)
    (ready : ReadyOf (moves.foldl (next config) sys).store package id) : ReadyOf sys.store package id := by
  induction moves generalizing sys with
  | nil => exact ready
  | cons move moves ih =>
    have later := ih met.2 (always.next met.1 fun _ _ cancelled change => change.stays_cancelled cancelled) ready
    exact next_ready met.1 always.holds later

end

/-- Where every write that names a job by its key alone finds it neither cancelled nor, to
queue it again, finished or out of retries, runs keep the law. -/
theorem clear_runs_keep_law (config : Config) (moves : List Move) (bounded : 0 ≤ config.worker.maxRetries)
    (met : Throughout (next config) (fun sys move => clear config sys move = true) System.initial moves) :
    JobLaw config moves := by
  constructor
  · rintro id earlier move middle later rfl answer
    have known := run_known config earlier
    have rest := met.append_right
    have always := answered_cancelled config known answer
    have reached : Always (fun standing => standing.status = .cancelled) id
        (run config (earlier ++ move :: middle)) := by
      rw [run_append]
      exact always.run rest.2.append_left fun _ _ cancelled change => change.stays_cancelled cancelled
    have suffix : Throughout (next config) (fun sys move => clear config sys move = true)
        (run config (earlier ++ move :: middle)) later := by
      rw [run_append]
      exact rest.2.append_right
    have whole : run config (earlier ++ move :: (middle ++ later)) =
        later.foldl (next config) (run config (earlier ++ move :: middle)) := by
      rw [← run_append]
      simp
    rw [whole]
    refine ⟨fun job found => ?_, fun package ready => cancelled_ready suffix reached ready⟩
    have final := reached.run suffix fun _ _ cancelled change => change.stays_cancelled cancelled
    exact final.holds job.standing (by simp [Store.standing, found])
  · rintro id earlier later old job rfl before finished found
    have known := run_known config earlier
    have always : Always (fun standing => standing.status.active = false) id (run config earlier) := by
      refine ⟨known, known id old before, fun standing held => ?_⟩
      rw [Store.standing, before, Option.map_some] at held
      cases held
      exact finished
    have final := always.run met.append_right fun _ _ finished change => change.stays_finished finished
    rw [run_append] at found
    exact final.holds job.standing (by simp [Store.standing, found])
  · intro id job found queued
    have held : Withdrawn id (run config moves) :=
      met.preserves (fun _ _ clear held => held.next clear) (initial_withdrawn id)
    by_contra asked
    have finished := held.finished job.standing (by simp [Store.standing, found]) (by simpa [Job.standing] using asked)
    simp [Job.standing, queued, JobStatus.active] at finished
  · intro id
    have bound : occurrences (next config) (claims id) System.initial moves ≤ _ := occurrences_le_potential
      (fun sys : System => sys.claimsLeft config.worker.maxRetries id)
      (fun _ move _ known => next_known known config move) (fun _ _ clear known => claims_spend known clear id)
      initial_known met
    have start : System.initial.claimsLeft config.worker.maxRetries id = config.worker.maxRetries.toNat + 1 := rfl
    omega

end

/-! ### Two evenings of a phone -/

namespace Sample

def config : Config := ⟨{}, fun _ => ⟨100, 50, 3, 2, 50, 25, 30⟩⟩

/-- The phone asks for a download, and the six limits let it through. -/
def create : List Move :=
  { action := .request 0 1 "phone" 7 } :: List.replicate 7 { action := .proceed 0 11 }

def work (draw : Draw) : Move := { elapsed := 1, action := .work 0 draw }

/-- A pass claims the job and stages its package. -/
def staged : List Move :=
  create ++ { action := .launch 0 } :: List.replicate 8 (work {})

def cancel : Move := { elapsed := 1, action := .cancel 1 11 none }

def persist : Move := work { packageId := 21, files := [⟨"manifest.json", 10⟩] }

/-- The encoder fails, the job is queued again, and the next pass finds it cancelled. -/
def withdrawn : List Move :=
  create ++ { action := .launch 0 } :: List.replicate 5 (work {}) ++
    work { fault := some (.refused "ffmpeg exited with status 1") } :: List.replicate 3 (work {}) ++
    cancel :: [{ action := .launch 1 }, { elapsed := 1, action := .work 1 {} }]

end Sample

theorem withdrawn_keeps_law : Throughout (next Sample.config) (fun sys move => clear Sample.config sys move = true)
    System.initial Sample.withdrawn ∧ JobLaw Sample.config Sample.withdrawn := by
  have met : Throughout (next Sample.config) (fun sys move => clear Sample.config sys move = true)
      System.initial Sample.withdrawn := by decide +kernel
  exact ⟨met, clear_runs_keep_law _ _ (by decide) met⟩

/-- The user cancels behind the last look at the row, and the package is stored all the
same. -/
theorem cancelled_job_becomes_ready : ¬ JobLaw Sample.config (Sample.staged ++ Sample.cancel :: ([] ++ [Sample.persist])) := by
  intro law
  obtain ⟨job, found, ready⟩ : ∃ job, (run Sample.config
      (Sample.staged ++ Sample.cancel :: ([] ++ [Sample.persist]))).store.jobs.find 11 = some job ∧
      job.status = .ready := by
    exact ⟨_, rfl, by decide +kernel⟩
  have cancelled := (law.cancelled 11 Sample.staged Sample.cancel [] [Sample.persist] rfl (by decide +kernel)).1 job found
  rw [ready] at cancelled
  cases cancelled

end Duskcue.Downloads
