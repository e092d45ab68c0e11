import Duskcue.DownloadJobs
import Duskcue.PackageWorker

/-! What the package worker leaves in its directories. A retained package has its files in the
directory of its job, and the job is finished. Nobody but the worker makes a package
retained or touches a directory, and it touches the directory of a job only while that job
has no retained package. The one step that breaks this is the UPDATE of
`fail_or_retry_job` for a job whose package has been recorded already. -/
namespace Duskcue.Packages
open Playback (Uuid)
open Downloads

variable {s : Store} {op : Operation} {sys : System}

/-! ## What holds of the rows -/

def Finished (s : Store) (id : Uuid) : Prop :=
  ∃ job, s.jobs.find id = some job ∧ (job.status = .ready ∨ job.status = .revoked)

/-- No package of the job is retained. -/
def Bare (s : Store) (id : Uuid) : Prop :=
  ∀ key package, s.packages.find key = some package → package.downloadJobId = id → package.status.retained = false

/-- `UNIQUE (download_job_id)`. -/
def Singular (s : Store) : Prop := ∀ key key' package package', s.packages.find key = some package →
  s.packages.find key' = some package' → package.downloadJobId = package'.downloadJobId → key = key'

/-- Every row of `download_package_files` names a file that lies in the directory with that
size, and the job is finished. -/
structure Kept (w : World) (key : Uuid) (package : Package) : Prop where
  files : ∀ file ∈ w.filesOf key, ∃ files, w.disk.find package.downloadJobId = some files ∧ file ∈ files
  job : Finished w.store package.downloadJobId

/-- Every ready or serving package is kept. -/
def Intact (w : World) : Prop :=
  ∀ key package, w.store.packages.find key = some package → package.status.retained = true → Kept w key package

structure Sound (w : World) : Prop where
  intact : Intact w
  singular : Singular w.store

/-! ## Changes that let the packages be -/

/-- Packages come from packages, none becomes retained, and the job of a retained one stays
finished. -/
def Lets (s s' : Store) : Prop := ∀ key package', s'.packages.find key = some package' →
  ∃ package, s.packages.find key = some package ∧ package'.downloadJobId = package.downloadJobId ∧
    (package'.status.retained = true → package.status.retained = true ∧
      (Finished s package.downloadJobId → Finished s' package.downloadJobId))

section
variable {s s' s'' : Store} {id key : Uuid}

theorem Lets.refl (s : Store) : Lets s s := fun _ package found => ⟨package, found, rfl, fun retained => ⟨retained, id⟩⟩

theorem Lets.trans (first : Lets s s') (second : Lets s' s'') : Lets s s'' := by
  intro key package'' found
  obtain ⟨package', found', same', retained'⟩ := second key package'' found
  obtain ⟨package, before, same, retained⟩ := first key package' found'
  refine ⟨package, before, same'.trans same, fun now => ?_⟩
  obtain ⟨between, finished'⟩ := retained' now
  obtain ⟨earlier, finished⟩ := retained between
  exact ⟨earlier, fun done => same ▸ finished' (same ▸ finished done)⟩

theorem Lets.bare (lets : Lets s s') (bare : Bare s id) : Bare s' id := by
  intro key package' found own
  obtain ⟨package, before, same, retained⟩ := lets key package' found
  cases now : package'.status.retained with
  | false => rfl
  | true => exact (Bool.false_ne_true ((bare key package before (same ▸ own)).symm.trans (retained now).1)).elim

theorem Lets.singular (lets : Lets s s') (singular : Singular s) : Singular s' := by
  intro key key' package package' found found' same
  obtain ⟨old, before, own, -⟩ := lets key package found
  obtain ⟨old', before', own', -⟩ := lets key' package' found'
  exact singular key key' old old' before before' (own.symm.trans (same.trans own'))

/-- A change of the jobs alone that leaves the job of every retained package finished. -/
theorem lets_jobs {jobs : Table Uuid Job} {issued : List Uuid} {now : Playback.Time}
    (finished : ∀ id, ¬ Bare s id → Finished s id → Finished ⟨jobs, s.packages, issued, now⟩ id) :
    Lets s ⟨jobs, s.packages, issued, now⟩ := by
  intro key package found
  refine ⟨package, found, rfl, fun retained => ⟨retained, finished _ fun bare => ?_⟩⟩
  exact Bool.false_ne_true ((bare key package found rfl).symm.trans retained)

theorem lets_updateJob {f : Job → Job}
    (kept : ¬ Bare s key → ∀ job, job.status = .ready ∨ job.status = .revoked →
      (f job).status = .ready ∨ (f job).status = .revoked) : Lets s (s.updateJob key f) := by
  unfold Store.updateJob
  split
  · exact Lets.refl s
  · next row held =>
    refine lets_jobs fun id bare finished => ?_
    obtain ⟨job, found, done⟩ := finished
    by_cases own : id = key
    · subst own
      cases held.symm.trans found
      exact ⟨f row, Table.find_put_self _ _ _, kept bare row done⟩
    · exact ⟨job, (Table.find_put_ne own).trans found, done⟩

theorem lets_updatePackage {f : Package → Package} (own : ∀ package, (f package).downloadJobId = package.downloadJobId)
    (late : ∀ package, (f package).status.retained = true → package.status.retained = true) :
    Lets s (s.updatePackage key f) := by
  intro other package' found
  unfold Store.updatePackage at found ⊢
  split at found
  · exact Lets.refl s other package' found
  · next row held =>
    rw [Table.find_put] at found
    split at found
    · next same =>
      cases found
      exact ⟨row, same ▸ held, own row, fun retained => ⟨late row retained, id⟩⟩
    · exact ⟨package', found, rfl, fun retained => ⟨retained, id⟩⟩

theorem lets_amend {f : Package → Package} (own : ∀ package, (f package).downloadJobId = package.downloadJobId)
    (late : ∀ package, (f package).status.retained = true → package.status.retained = true) :
    Lets s { s with packages := s.packages.amend fun _ package => f package } := by
  intro other package' found
  rw [Table.find_amend] at found
  obtain ⟨row, held, rfl⟩ := Option.map_eq_some_iff.mp found
  exact ⟨row, held, own row, fun retained => ⟨late row retained, id⟩⟩

end

/-- What the calls of the domain may do to the world, and most operations of the worker. -/
structure Calm (w w' : World) : Prop where
  disk : w'.disk = w.disk
  store : Lets w.store w'.store
  files : ∀ key package, w'.store.packages.find key = some package → w'.filesOf key = w.filesOf key

section
variable {w w' : World} {id : Uuid}

theorem Calm.of_store {store : Store} (lets : Lets w.store store) : Calm w { w with store } :=
  ⟨rfl, lets, fun _ _ _ => rfl⟩

theorem Calm.sound (calm : Calm w w') (sound : Sound w) : Sound w' := by
  refine ⟨fun key package' found retained => ?_, calm.store.singular sound.singular⟩
  obtain ⟨package, before, same, earlier⟩ := calm.store key package' found
  obtain ⟨was, finished⟩ := earlier retained
  have kept := sound.intact key package before was
  rw [← same] at finished
  refine ⟨fun file member => ?_, finished (same ▸ kept.job)⟩
  rw [calm.files key package' found] at member
  rw [calm.disk, same]
  exact kept.files file member

/-- The files of the package that is being prepared: they lie in the directory of its job. -/
def Laid (dir : Uuid) (files : List PackageFile) (w : World) : Prop :=
  ∀ file ∈ files, ∃ there, w.disk.find dir = some there ∧ file ∈ there

theorem stable_bare (id : Uuid) : Procedure.Stable Calm fun w => Bare w.store id :=
  fun _ _ calm bare => calm.store.bare bare

theorem stable_laid (dir : Uuid) (files : List PackageFile) : Procedure.Stable Calm (Laid dir files) := by
  intro w w' calm laid file member
  rw [calm.disk]
  exact laid file member

end

/-! ## Statements -/

section
variable {s s' : Store} {id : Uuid}

theorem lets_recover {minutes : Int} (ran : Downloads.recoverStalePreparing minutes s = .ok s') : Lets s s' := by
  rw [recoverStalePreparing_ok ran]
  refine lets_jobs fun id _ finished => ?_
  obtain ⟨job, found, done⟩ := finished
  have fresh : job.stale minutes s.now = false := by
    rcases done with done | done <;> simp [Job.stale, done]
  exact ⟨job, by simp [Table.find_amend, found, fresh], done⟩

theorem lets_claim {locked : List Uuid} {claimed : Option DownloadJobWork}
    (ran : Downloads.claimNextJob locked s = .ok (s', claimed)) : Lets s s' := by
  obtain ⟨-, rfl⟩ | ⟨job, work, -, found, claimable, rfl⟩ := claimNextJob_cases ran
  · exact Lets.refl _
  · refine lets_jobs fun id _ finished => ?_
    obtain ⟨row, held, done⟩ := finished
    by_cases own : id = work.id
    · subst own
      cases held.symm.trans found
      simp only [Job.claimable, Bool.and_eq_true, decide_eq_true_eq] at claimable
      rcases done with done | done <;> cases claimable.1.symm.trans done
    · exact ⟨row, (Table.find_put_ne own).trans held, done⟩

/-- A claimed job is a queued one, and has no retained package. -/
theorem bare_claimed {locked : List Uuid} {work : DownloadJobWork}
    (finished : ∀ key package, s.packages.find key = some package → package.status.retained = true →
      Finished s package.downloadJobId)
    (ran : Downloads.claimNextJob locked s = .ok (s', some work)) : Bare s' work.id := by
  obtain ⟨none, -⟩ | ⟨job, taken, same, found, claimable, rfl⟩ := claimNextJob_cases ran
  · cases none
  · cases same
    intro key package held own
    cases retained : package.status.retained with
    | false => rfl
    | true =>
      obtain ⟨row, there, done⟩ := finished key package held retained
      rw [own] at there
      cases there.symm.trans found
      simp only [Job.claimable, Bool.and_eq_true, decide_eq_true_eq] at claimable
      rcases done with done | done <;> cases claimable.1.symm.trans done

theorem lets_failOrRetry {config : WorkerConfig} {work : DownloadJobWork} {failure : String}
    (bare : Bare s work.id) (ran : Downloads.failOrRetryJob config work failure s = .ok s') : Lets s s' := by
  obtain ⟨job, found, -, rfl⟩ := failOrRetryJob_ok ran
  rw [put_eq_updateJob (f := Job.failOrRetry (work.retries config.maxRetries) failure config.failedCleanupHours s.now) found]
  exact lets_updateJob fun kept => (kept bare).elim

theorem lets_progress (percent bytes : Nat) : Lets s (s.updateJob id (Job.progress percent bytes s.now)) :=
  lets_updateJob fun _ _ done => done

theorem lets_release : Lets s (s.updateJob id fun job => { job with cleanupAfterAt := none, updatedAt := s.now }) :=
  lets_updateJob fun _ _ done => done

theorem lets_markCancelled {reason : String} (bare : Bare s id) :
    Lets s (s.updateJob id (Job.markCancelled reason s.now)) :=
  lets_updateJob fun kept => (kept bare).elim

theorem lets_expireDue : Lets s (Downloads.expireDue s) := by
  refine lets_amend (fun package => ?_) fun package retained => ?_
  · split <;> rfl
  · split at retained
    · cases retained
    · exact retained

theorem lets_retireUnserved (days : Int) : Lets s (Downloads.retireUnserved days s) := by
  refine lets_amend (fun package => ?_) fun package retained => ?_
  · split <;> rfl
  · split at retained
    · cases retained
    · exact retained

theorem lets_markCleaned :
    Lets s (s.updatePackage id fun package => { package with status := .cleaned, updatedAt := s.now }) :=
  lets_updatePackage (fun _ => rfl) fun _ retained => by cases retained

theorem lets_removeJob : Lets s (s.removeJob id) := by
  intro key package found
  obtain ⟨before, other⟩ := Table.find_discard.mp found
  refine ⟨package, before, rfl, fun retained => ⟨retained, fun finished => ?_⟩⟩
  obtain ⟨job, held, done⟩ := finished
  refine ⟨job, ?_, done⟩
  rw [Store.removeJob, Table.find_remove, if_neg (of_decide_eq_false other)]
  exact held

theorem lets_insertJob {request : Request} (absent : s.jobs.find id = none) : Lets s (insertJob request id s) := by
  refine lets_jobs fun other _ finished => ?_
  obtain ⟨job, found, done⟩ := finished
  have old : other ≠ id := by
    rintro rfl
    cases absent.symm.trans found
  exact ⟨job, (Table.find_put_ne old).trans found, done⟩

theorem lets_apply (s : Store) (action : Action) : Lets s (action.apply s) := by
  cases action with
  | cancel userId key reason =>
    obtain same | ⟨text, same⟩ := apply_cancel userId key reason s <;> rw [same]
    · exact Lets.refl s
    · refine lets_updateJob fun _ job done => ?_
      rcases done with done | done <;> simp [Job.cancel, JobStatus.active, done]
  | serve =>
    refine lets_updatePackage (fun _ => rfl) fun package retained => ?_
    simp only [Package.serve] at retained
    split at retained
    · next ready =>
      rw [ready]
      rfl
    · exact retained
  | expire | revoke | renew =>
    refine lets_updatePackage (fun package => ?_) fun package retained => ?_
    · split <;> rfl
    · split at retained
      · assumption
      · exact retained
  | revokeJob =>
    refine lets_updateJob fun _ job done => ?_
    split
    · exact .inr rfl
    · exact done
  | deletePackage =>
    simp only [Action.apply, Store.deletePackage]
    split
    · exact Lets.refl s
    · refine Lets.trans ?_ (lets_updateJob fun _ _ done => done)
      refine lets_updatePackage (fun package => ?_) fun package retained => ?_
      · unfold Package.delete
        split <;> rfl
      · unfold Package.delete at retained
        split at retained
        · exact retained
        · cases retained
  | renewJob => exact lets_updateJob fun _ _ done => done
  | loseFile =>
    refine lets_jobs fun id _ finished => ?_
    obtain ⟨job, found, done⟩ := finished
    refine ⟨_, by rw [Table.find_amend, found, Option.map_some], ?_⟩
    split <;> exact done
  | removeJob => exact lets_removeJob
  | request | proceed | launch | work | drop => exact Lets.refl s

end

section
variable {w : World} {id : Uuid}

theorem calm_act (w : World) (action : Action) : Calm w (w.act action) := by
  cases action with
  | removeJob id =>
    refine ⟨rfl, lets_removeJob, fun key package found => ?_⟩
    obtain ⟨before, other⟩ := Table.find_discard.mp found
    have stays : (w.packageFiles.discard fun package _ =>
        (w.store.packages.find package).any fun package => package.downloadJobId = id).find key = w.packageFiles.find key := by
      ext files
      rw [Table.find_discard, before, Option.any_some, other]
      simp
    simp only [World.filesOf, World.act, stays]
  | request | proceed | cancel | launch | work | drop | serve | expire | revoke | revokeJob | deletePackage | renew
  | renewJob | loseFile => exact Calm.of_store (lets_apply w.store _)

theorem calm_create (w : World) (request : Request) (id : Uuid) : Calm w (w.create request id) := by
  unfold World.create
  split
  · exact Calm.of_store (Lets.refl _)
  · next free =>
    refine Calm.of_store (lets_insertJob ?_)
    simp only [Bool.or_eq_true, not_or, Option.not_isSome_iff_eq_none] at free
    exact free.2

end

/-! ## Directories and packages -/

section
variable {w w' : World} {dir id : Uuid} {work : DownloadJobWork} {files : List PackageFile}

/-- Only the directory of a job without a retained package may be touched. -/
theorem Sound.touched (sound : Sound w) (bare : Bare w.store dir) (disk : Table Uuid (List PackageFile))
    (others : ∀ other, other ≠ dir → disk.find other = w.disk.find other) : Sound { w with disk } := by
  refine ⟨fun key package found retained => ?_, sound.singular⟩
  have kept := sound.intact key package found retained
  have elsewhere : package.downloadJobId ≠ dir := fun own =>
    Bool.false_ne_true ((bare key package found own).symm.trans retained)
  refine ⟨fun file member => ?_, kept.job⟩
  rw [others _ elsewhere]
  exact kept.files file member

theorem Sound.written (sound : Sound w) (bare : Bare w.store dir) (files : List PackageFile) :
    Sound (w.write dir files) :=
  sound.touched bare _ fun _ other => Table.find_put_ne other

theorem Sound.removed {stuck : List PackageFile} (sound : Sound w) (bare : Bare w.store dir)
    (ran : removeDirAll dir stuck w = .ok w') : Sound w' ∧ w'.store = w.store := by
  unfold removeDirAll at ran
  split at ran
  · cases ran
  · split at ran
    · cases ran
      refine ⟨sound.touched bare _ fun other away => ?_, rfl⟩
      rw [Table.find_remove, if_neg away]
    · cases ran
      exact ⟨sound.written bare _, rfl⟩

theorem Sound.filled {written : List PackageFile} (sound : Sound w) (bare : Bare w.store dir)
    (ran : writeFiles dir written w = .ok w') : Sound w' ∧ w'.store = w.store := by
  unfold writeFiles at ran
  split at ran
  · cases ran
  · cases ran
    exact ⟨sound.written bare _, rfl⟩

theorem Sound.created (sound : Sound w) (bare : Bare w.store dir) :
    Sound (createDirAll dir w) ∧ (createDirAll dir w).store = w.store := by
  unfold createDirAll
  split
  · exact ⟨sound.written bare _, rfl⟩
  · exact ⟨sound, rfl⟩

theorem laid_collected (ran : collectPackageFiles dir w = .ok files) : Laid dir files w := by
  unfold collectPackageFiles at ran
  split at ran
  · cases ran
  · next there found =>
    cases ran
    exact fun file member => ⟨there, found, (List.perm_insertionSort _ there).mem_iff.mp member⟩

theorem packageRow_key {key : Uuid} {package : Package} (singular : Singular s)
    (found : s.packages.find key = some package) (own : package.downloadJobId = work.id) :
    (s.packageRow work files id).1 = key := by
  have member : key ∈ s.packages.select fun _ package => package.downloadJobId = work.id :=
    Table.mem_select.mpr ⟨package, found, decide_eq_true own⟩
  obtain ⟨first, head⟩ : ∃ first, (s.packages.select fun _ package => package.downloadJobId = work.id).head? = some first :=
    ⟨_, List.head?_eq_some_head (List.ne_nil_of_mem member)⟩
  obtain ⟨row, held, same⟩ := Table.mem_select.mp (List.mem_of_head? head)
  have first_eq : first = key := singular first key row package held found ((of_decide_eq_true same).trans own.symm)
  subst first_eq
  simp [Store.packageRow, head, held]

theorem Sound.persisted (sound : Sound w) (laid : Laid work.id files w)
    (ran : persist work files id w = .ok w') : Sound w' := by
  obtain ⟨store, stored, rest⟩ := bind_ok ran
  cases rest
  obtain ⟨⟨job, row⟩, rfl⟩ := persistReadyPackage_ok stored
  have placed : (w.store.packageRow work files id).2.downloadJobId = work.id := packageRow_job _ _ _ _
  have others {key : Uuid} {package : Package} (away : key ≠ (w.store.packageRow work files id).1)
      (found : w.store.packages.find key = some package) : package.downloadJobId ≠ work.id :=
    fun own => away (packageRow_key sound.singular found own).symm
  constructor
  · intro key package found retained
    simp only [updateJob_packages, Store.upsertPackage, Table.find_put] at found
    split at found
    · next same =>
      cases found
      subst same
      refine ⟨fun file member => ?_, ?_⟩
      · rw [placed]
        refine laid file ?_
        simpa [World.filesOf] using member
      · refine ⟨job.finishReady (files.map PackageFile.byteSize).sum w.store.now, ?_, .inl rfl⟩
        rw [find_updateJob, placed, if_pos rfl]
        exact congrArg (Option.map _) row
    · next away =>
      have elsewhere := others away found
      have kept := sound.intact key package found retained
      refine ⟨fun file member => ?_, ?_⟩
      · refine kept.files file ?_
        simpa [World.filesOf, Table.find_put, away] using member
      · obtain ⟨held, there, done⟩ := kept.job
        exact ⟨held, by rw [find_updateJob, if_neg elsewhere]; exact there, done⟩
  · intro key key' package package' found found' same
    simp only [updateJob_packages, Store.upsertPackage, Table.find_put] at found found'
    split at found <;> split at found'
    · next first second => rw [first, second]
    · next away =>
      cases found
      exact (others away found' (same.symm.trans placed)).elim
    · next away _ =>
      cases found'
      exact (others away found (same.trans placed)).elim
    · exact sound.singular key key' package package' found found' same

end

/-! ## The worker -/

/-- The UPDATE of `fail_or_retry_job` takes effect on a job that has a retained package. -/
def relapses (chance : Chance) (w : World) : Operation → Bool
  | .failOrRetryJob _ work _ => chance.lands &&
      (w.store.jobs.find work.id).any (fun job => job.retryCount < intMax) &&
      w.store.packages.holds fun _ package => package.downloadJobId = work.id && package.status.retained
  | _ => false

theorem bare_iff {id : Uuid} :
    Bare s id ↔ (s.packages.holds fun _ package => package.downloadJobId = id && package.status.retained) = false := by
  rw [Table.holds_eq_false]
  refine forall_congr' fun key => forall_congr' fun package => imp_congr_right fun _ => ?_
  by_cases own : package.downloadJobId = id <;> simp [own]

/-- The worker relies on the others for calm, and keeps the packages sound unless it relapses. -/
def agreed : Procedure.Agreement Operation Chance World := ⟨Calm, Sound, fun op chance w => relapses chance w op = false⟩

/-- The procedure keeps to the agreement wherever `known` holds. -/
abbrev Keeps {α : Type} (worker : Worker α) (post : Except String α → World → Prop) (known : World → Prop) : Prop :=
  worker.Secure Operation.effect agreed post known

open Procedure

theorem effect_cases (op : Operation) (chance : Chance) (w : World) :
    (∃ error, op.effect chance w = (w, .error error)) ∨ ∃ w' answer, chance.lands = true ∧
      op.run chance w = .ok (w', answer) ∧
      (op.effect chance w = (w', .ok answer) ∨ ∃ error, op.effect chance w = (w', .error error)) := by
  unfold Operation.effect
  split
  · exact .inl ⟨_, rfl⟩
  · next lost =>
    have lands : chance.lands = true := by simp [Draw.lands, lost]
    split
    · exact .inl ⟨_, rfl⟩
    · next w' answer ran => exact .inr ⟨w', answer, lands, ran, .inr ⟨_, rfl⟩⟩
  · next fine =>
    have lands : chance.lands = true := by simp [Draw.lands, fine]
    split
    · exact .inl ⟨_, rfl⟩
    · next w' answer ran => exact .inr ⟨w', answer, lands, ran, .inl rfl⟩

theorem effect_lands {chance : Chance} {w w' : World} {answer : op.Answer} (lands : chance.lands = true)
    (ran : op.run chance w = .ok (w', answer)) : (op.effect chance w).1 = w' := by
  unfold Operation.effect
  split
  · next refused => simp [Draw.lands, refused] at lands
  · simp only [ran]
  · simp only [ran]

variable {op : Operation} {known : World → Prop} {post : Except String op.Answer → World → Prop}

/-- An operation that fails before it takes effect leaves everything as it is; where it takes
effect its answer may still be lost. -/
theorem keeps_ask (stable : Stable Calm known) (refused : ∀ w error, known w → post (.error error) w)
    (ran : ∀ chance w w' answer, Sound w → known w → chance.lands = true → relapses chance w op = false →
      op.run chance w = .ok (w', answer) → Sound w' ∧ post (.ok answer) w' ∧ ∀ error, post (.error error) w') :
    Keeps (ask op) post known := by
  refine Secure.call stable fun chance w sound holds clear => ?_
  obtain ⟨error, refusal⟩ | ⟨w', answer, lands, took, answered | ⟨error, lost⟩⟩ := effect_cases op chance w
  · rw [refusal]
    exact ⟨sound, refused w error holds⟩
  · rw [answered]
    obtain ⟨safe, after, -⟩ := ran chance w w' answer sound holds lands clear took
    exact ⟨safe, after⟩
  · rw [lost]
    obtain ⟨safe, -, after⟩ := ran chance w w' answer sound holds lands clear took
    exact ⟨safe, after error⟩

/-- What is known outlasts an operation that is as calm as the others are. -/
theorem keeps_calm (stable : Stable Calm known)
    (calm : ∀ chance w w' answer, known w → op.run chance w = .ok (w', answer) → Calm w w') :
    Keeps (ask op) (fun _ => known) known := by
  refine keeps_ask stable (fun _ _ holds => holds) fun chance w w' answer sound holds _ _ ran => ?_
  have moved := calm chance w w' answer holds ran
  have after := stable w w' moved holds
  exact ⟨moved.sound sound, after, fun _ => after⟩

/-- An operation that writes nothing. -/
theorem keeps_look (stable : Stable Calm known)
    (same : ∀ chance w w' answer, op.run chance w = .ok (w', answer) → w' = w) :
    Keeps (ask op) (fun _ => known) known := by
  refine keeps_calm stable fun chance w w' answer _ ran => ?_
  rw [same chance w w' answer ran]
  exact Calm.of_store (Lets.refl _)

section
variable {known : World → Prop} {dir : Uuid} {work : DownloadJobWork}

theorem keeps_recordEvent (eventType : String) (stable : Stable Calm known) :
    Keeps (ask (.recordEvent eventType)) (fun _ => known) known :=
  keeps_look stable fun _ _ _ _ ran => (Prod.mk.inj (Except.ok.inj ran)).1.symm

theorem keeps_updateProgress (id : Uuid) (percent bytes : Nat) (stable : Stable Calm known) :
    Keeps (ask (.updateProgress id percent bytes)) (fun _ => known) known := by
  refine keeps_calm stable fun chance w w' answer _ ran => ?_
  cases ran
  exact Calm.of_store (lets_progress percent bytes)

/-- An operation on the directory of a job without a retained package. -/
theorem keeps_dir {held : Store → Prop} (stable : Stable Calm fun w => held w.store)
    (bare : ∀ s, held s → Bare s dir)
    (touched : ∀ chance w w' answer, Sound w → Bare w.store dir → op.run chance w = .ok (w', answer) →
      Sound w' ∧ w'.store = w.store) :
    Keeps (ask op) (fun _ w => held w.store) fun w => held w.store := by
  refine keeps_ask stable (fun _ _ holds => holds) fun chance w w' answer sound holds _ _ ran => ?_
  obtain ⟨safe, same⟩ := touched chance w w' answer sound (bare w.store holds) ran
  rw [same]
  exact ⟨safe, holds, fun _ => holds⟩

theorem keeps_removeDirAll {held : Store → Prop} (stable : Stable Calm fun w => held w.store)
    (bare : ∀ s, held s → Bare s dir) :
    Keeps (ignore (ask (.removeDirAll dir))) (fun _ w => held w.store) fun w => held w.store := by
  refine Secure.ignore (keeps_dir stable bare fun chance w w' answer sound bare ran => ?_)
  obtain ⟨removed, took, rest⟩ := bind_ok ran
  cases rest
  exact sound.removed bare took

theorem keeps_writeFiles (written : Chance → List PackageFile)
    (writes : ∀ chance w w' answer, op.run chance w = .ok (w', answer) → writeFiles dir (written chance) w = .ok w') :
    Keeps (ask op) (fun _ w => Bare w.store dir) fun w => Bare w.store dir :=
  keeps_dir (stable_bare dir) (fun _ bare => bare) fun chance w w' answer sound bare ran =>
    sound.filled bare (writes chance w w' answer ran)

theorem keeps_isCancelled (id : Uuid) (stable : Stable Calm known) :
    Keeps (ask (.isCancelled id)) (fun _ => known) known := by
  refine keeps_look stable fun chance w w' answer ran => ?_
  obtain ⟨cancelled, -, rest⟩ := bind_ok ran
  exact (Prod.mk.inj (Except.ok.inj rest)).1.symm

theorem keeps_collect (dir : Uuid) :
    Keeps (ask (.collectPackageFiles dir))
      (fun outcome w => Bare w.store dir ∧ ∀ files, outcome = .ok files → Laid dir files w) fun w => Bare w.store dir := by
  refine keeps_ask (stable_bare dir) (fun _ _ bare => ⟨bare, nofun⟩) fun chance w w' files sound bare _ _ ran => ?_
  obtain ⟨collected, took, rest⟩ := bind_ok ran
  cases rest
  refine ⟨sound, ⟨bare, fun files same => ?_⟩, fun _ => ⟨bare, nofun⟩⟩
  cases same
  exact laid_collected took

theorem keeps_persist (work : DownloadJobWork) (files : List PackageFile) :
    Keeps (ask (.persistReadyPackage work files)) (fun _ _ => True) (Laid work.id files) := by
  refine keeps_ask (stable_laid work.id files) (fun _ _ _ => trivial) fun chance w w' answer sound laid _ _ ran => ?_
  obtain ⟨persisted, took, rest⟩ := bind_ok ran
  cases rest
  exact ⟨sound.persisted laid took, trivial, fun _ => trivial⟩

theorem keeps_markCancelled (work : DownloadJobWork) (reason : String) :
    Keeps (markCancelled work reason) (fun _ w => Bare w.store work.id) fun w => Bare w.store work.id := by
  refine Secure.bind (fun _ w => Bare w.store work.id) ?_ (fun _ _ bare => bare) fun _ =>
    keeps_recordEvent _ (stable_bare work.id)
  refine keeps_calm (stable_bare work.id) fun chance w w' answer bare ran => ?_
  cases ran
  exact Calm.of_store (lets_markCancelled bare)

theorem keeps_resetPackageDir (dir : Uuid) :
    Keeps (resetPackageDir dir) (fun _ w => Bare w.store dir) fun w => Bare w.store dir := by
  refine Secure.bind _ (keeps_removeDirAll (stable_bare dir) fun _ bare => bare) (fun _ _ bare => bare) fun _ => ?_
  refine keeps_dir (stable_bare dir) (fun _ bare => bare) fun chance w w' answer sound bare ran => ?_
  cases ran
  exact sound.created bare

theorem keeps_packageSize (dir : Uuid) (stable : Stable Calm known) :
    Keeps (packageSize dir) (fun _ => known) known := by
  refine Secure.bind (fun outcome w => ∃ tried, outcome = .ok tried ∧ known w) (Secure.attempt ?_) ?_ fun tried => ?_
  · refine keeps_look stable fun chance w w' answer ran => ?_
    simp only [Operation.run] at ran
    split at ran
    · cases ran
    · exact (Prod.mk.inj (Except.ok.inj ran)).1.symm
  · rintro error w ⟨tried, same, -⟩
    cases same
  · rintro w ⟨_, -, holds⟩
    exact holds

/-- A package is recorded only with files that lie in its directory. -/
theorem keeps_publishPackage (work : DownloadJobWork) :
    Keeps (publishPackage work) (fun _ _ => True) fun w => Bare w.store work.id := by
  have bare := stable_bare work.id
  refine Secure.bind _ (keeps_packageSize work.id bare) (fun _ _ _ => trivial) fun preparedBytes => ?_
  refine Secure.bind _ (keeps_updateProgress work.id 85 preparedBytes bare) (fun _ _ _ => trivial) fun _ => ?_
  refine Secure.bind (fun _ w => Bare w.store work.id) ?_ (fun _ _ _ => trivial) fun _ => ?_
  · refine Secure.bind _ (keeps_collect work.id) (fun _ _ after => after.1) fun files => ?_
    refine (keeps_writeFiles (fun chance => [⟨"manifest.json", chance.manifestBytes⟩]) ?_).weaken
      fun _ after => after.1
    intro chance w w' answer ran
    obtain ⟨written, took, rest⟩ := bind_ok ran
    cases rest
    exact took
  refine Secure.bind _ (keeps_collect work.id) (fun _ _ _ => trivial) fun files => ?_
  refine Secure.bind _ ((keeps_persist work files).weaken fun w after => after.2 files rfl) (fun _ _ _ => trivial) fun _ => ?_
  refine Secure.bind _ (keeps_recordEvent "job_ready" stable_true) (fun _ _ _ => trivial) fun _ => ?_
  exact keeps_updateProgress work.id 100 (totalBytes files) stable_true

theorem keeps_processJob (work : DownloadJobWork) :
    Keeps (processJob work) (fun _ _ => True) fun w => Bare w.store work.id := by
  have bare := stable_bare work.id
  refine Secure.bind _ (keeps_isCancelled work.id bare) (fun _ _ _ => trivial) fun early => ?_
  cases early with
  | true => exact (keeps_markCancelled work "cancelled before package preparation").mono fun _ _ _ => trivial
  | false =>
    refine Secure.bind _ (keeps_resetPackageDir work.id) (fun _ _ _ => trivial) fun _ => ?_
    refine Secure.bind _ (keeps_updateProgress work.id 10 0 bare) (fun _ _ _ => trivial) fun _ => ?_
    refine Secure.bind (fun _ w => Bare w.store work.id) ?_ (fun _ _ _ => trivial) fun _ => ?_
    · refine keeps_writeFiles (fun chance => chance.files) fun chance w w' answer ran => ?_
      obtain ⟨written, took, rest⟩ := bind_ok ran
      cases rest
      exact took
    refine Secure.bind _ (keeps_isCancelled work.id bare) (fun _ _ _ => trivial) fun late => ?_
    cases late with
    | true =>
      refine Secure.bind _ (keeps_markCancelled work _) (fun _ _ _ => trivial) fun _ => ?_
      exact (keeps_removeDirAll bare fun _ bare => bare).mono fun _ _ _ => trivial
    | false => exact keeps_publishPackage work


/-- Where the UPDATE of `fail_or_retry_job` is no relapse, the directory may be removed behind it. -/
theorem keeps_failOrRetryJob (config : WorkerConfig) (work : DownloadJobWork) (failure : String) :
    Keeps (failOrRetryJob config work failure) (fun outcome w => ∀ value, outcome = .ok value → Bare w.store work.id)
      fun _ => True := by
  refine Secure.bind (fun outcome w => ∀ value, outcome = .ok value → Bare w.store work.id) ?_ (fun _ _ _ => nofun)
    fun _ => ?_
  · refine keeps_ask stable_true (fun _ _ _ => nofun) fun chance w w' answer sound _ lands clear ran => ?_
    obtain ⟨store, took, rest⟩ := bind_ok ran
    cases rest
    have bare : Bare w.store work.id := by
      obtain ⟨job, found, inside, -⟩ := failOrRetryJob_ok took
      simpa [relapses, lands, found, inside, bare_iff] using clear
    have moved : Calm w { w with store } := Calm.of_store (lets_failOrRetry bare took)
    exact ⟨moved.sound sound, fun _ _ => moved.store.bare bare, fun _ => nofun⟩
  · refine ((keeps_recordEvent "job_failed" (stable_bare work.id)).weaken fun w after => after () rfl).mono ?_
    exact fun _ _ bare _ _ => bare

theorem keeps_handleJob (config : WorkerConfig) (work : DownloadJobWork) :
    Keeps (handleJob config work) (fun _ _ => True) fun w => Bare w.store work.id := by
  refine Secure.bind _ (keeps_recordEvent "job_started" (stable_bare work.id)) (fun _ _ _ => trivial) fun _ => ?_
  refine Secure.bind _ (keeps_processJob work).attempt (fun _ _ _ => trivial) fun tried => ?_
  cases tried with
  | ok => exact fun _ _ => trivial
  | error =>
    refine Secure.bind _ ((keeps_failOrRetryJob config work _).weaken fun _ _ => trivial) (fun _ _ _ => trivial) fun _ => ?_
    refine ((keeps_removeDirAll (stable_bare work.id) fun _ bare => bare).weaken fun w after => after () rfl).mono ?_
    exact fun _ _ _ => trivial

theorem keeps_claimJobs (config : WorkerConfig) (left : Nat) :
    Keeps (claimJobs config left) (fun _ _ => True) fun _ => True := by
  induction left with
  | zero => exact fun _ _ => trivial
  | succ _ ih =>
    refine Secure.bind (fun outcome w => ∀ work, outcome = .ok (some work) → Bare w.store work.id) ?_
      (fun _ _ _ => trivial) fun claimed => ?_
    · refine keeps_ask stable_true (fun _ _ _ => nofun) fun chance w w' claimed sound _ _ _ ran => ?_
      obtain ⟨⟨store, given⟩, took, rest⟩ := bind_ok ran
      cases rest
      refine ⟨(Calm.of_store (lets_claim took)).sound sound, fun work same => ?_, fun _ => nofun⟩
      cases same
      exact bare_claimed (fun key package found retained => (sound.intact key package found retained).job) took
    · cases claimed with
      | none => exact fun _ _ => trivial
      | some work =>
        refine Secure.bind _ ((keeps_handleJob config work).weaken fun w after => after work rfl) (fun _ _ _ => trivial)
          fun _ => ih

/-! ### Cleanup -/

/-- None of the jobs has a retained package. -/
def AllBare (ids : List Uuid) (s : Store) : Prop := ∀ id ∈ ids, Bare s id

theorem stable_allBare (ids : List Uuid) : Stable Calm fun w => AllBare ids w.store :=
  fun _ _ calm bare id member => calm.store.bare (bare id member)

/-- A round of a cleanup: a directory goes, then a row is written that lets the packages be. -/
theorem keeps_round {dir : Uuid} {ids : List Uuid} {mark : Worker Unit}
    (marks : Keeps mark (fun _ w => AllBare ids w.store) fun w => AllBare ids w.store) :
    Keeps (do ignore (ask (.removeDirAll dir)); mark; ask (.recordEvent "cleanup"))
      (fun _ w => AllBare ids w.store) fun w => AllBare (dir :: ids) w.store := by
  have tail {w : World} (bare : AllBare (dir :: ids) w.store) : AllBare ids w.store :=
    fun id member => bare id (List.mem_cons_of_mem dir member)
  refine Secure.bind _ (keeps_removeDirAll (stable_allBare (dir :: ids)) fun _ bare => bare dir List.mem_cons_self)
    (fun _ _ bare => tail bare) fun _ => ?_
  refine Secure.bind _ (marks.weaken fun _ bare => tail bare) (fun _ _ bare => bare) fun _ => ?_
  exact keeps_recordEvent "cleanup" (stable_allBare ids)

theorem bare_due {id : Uuid} {package : Package} (singular : Singular s)
    (found : s.packages.find id = some package) (due : package.due s.now = true) : Bare s package.downloadJobId := by
  intro key other held own
  obtain rfl := singular key id other package held found own
  cases held.symm.trans found
  simp only [Package.due, Bool.and_eq_true, decide_eq_true_eq, List.mem_cons, List.not_mem_nil, or_false] at due
  rcases due.1 with status | status | status | status <;> rw [status] <;> rfl

theorem keeps_cleanupDuePackages (days : Int) : Keeps (cleanupDuePackages days) (fun _ _ => True) fun _ => True := by
  refine Secure.bind (fun _ _ => True) ?_ (fun _ _ _ => trivial) fun _ => ?_
  · refine keeps_calm stable_true fun chance w w' answer _ ran => ?_
    cases ran
    exact Calm.of_store lets_expireDue
  refine Secure.bind (fun _ _ => True) ?_ (fun _ _ _ => trivial) fun _ => ?_
  · refine keeps_calm stable_true fun chance w w' answer _ ran => ?_
    cases ran
    exact Calm.of_store (lets_retireUnserved days)
  refine Secure.bind (fun outcome w => ∀ rows, outcome = .ok rows → AllBare (rows.map Prod.snd) w.store) ?_
    (fun _ _ _ => trivial) fun rows => ?_
  · refine keeps_ask stable_true (fun _ _ _ => nofun) fun chance w w' rows sound _ _ _ ran => ?_
    cases ran
    refine ⟨sound, fun rows same id member => ?_, fun _ => nofun⟩
    cases same
    obtain ⟨row, among, rfl⟩ := List.mem_map.mp member
    obtain ⟨key, chosen, pair⟩ := List.mem_filterMap.mp among
    obtain ⟨package, found, rfl⟩ := Option.map_eq_some_iff.mp pair
    obtain ⟨held, there, due⟩ := Table.mem_select.mp (List.mem_of_mem_take chosen)
    cases there.symm.trans found
    exact bare_due sound.singular found due
  · refine (Secure.forEach (fun rows w => AllBare (rows.map Prod.snd) w.store) (fun _ _ _ _ => trivial)
      (fun _ _ => trivial) (fun row rows => ?_) rows).weaken fun w after => after rows rfl
    refine keeps_round (keeps_calm (stable_allBare _) fun chance w w' answer _ ran => ?_)
    cases ran
    exact Calm.of_store lets_markCleaned

theorem keeps_cleanupDueJobDirs : Keeps cleanupDueJobDirs (fun _ _ => True) fun _ => True := by
  refine Secure.bind (fun outcome w => ∀ rows, outcome = .ok rows → AllBare rows w.store) ?_ (fun _ _ _ => trivial)
    fun rows => ?_
  · refine keeps_ask stable_true (fun _ _ _ => nofun) fun chance w w' rows sound _ _ _ ran => ?_
    cases ran
    refine ⟨sound, fun rows same id member => ?_, fun _ => nofun⟩
    cases same
    obtain ⟨job, -, due⟩ := Table.mem_select.mp (List.mem_of_mem_take member)
    simp only [Store.dueJob, Bool.and_eq_true, Bool.not_eq_true'] at due
    intro key package found own
    cases (Table.holds_eq_false.mp due.2 key package found).symm.trans (decide_eq_true own)
  · refine (Secure.forEach (fun rows w => AllBare rows w.store) (fun _ _ _ _ => trivial) (fun _ _ => trivial)
      (fun job jobs => ?_) rows).weaken fun w after => after rows rfl
    refine keeps_round (keeps_calm (stable_allBare _) fun chance w w' answer _ ran => ?_)
    cases ran
    exact Calm.of_store lets_release

theorem keeps_cleanOrphans (left : Nat) (dirs : List Uuid) :
    Keeps (cleanOrphans left dirs) (fun _ _ => True) fun _ => True := by
  induction dirs generalizing left with
  | nil => cases left <;> exact fun _ _ => trivial
  | cons dir _ ih =>
    cases left with
    | zero => exact fun _ _ => trivial
    | succ left =>
      refine Secure.bind (fun _ _ => True) ?_ (fun _ _ _ => trivial) fun _ => ?_
      · exact keeps_look stable_true fun _ _ _ _ ran => (Prod.mk.inj (Except.ok.inj ran)).1.symm
      refine Secure.bind (fun outcome w => outcome = .ok false → Bare w.store dir) ?_ (fun _ _ _ => trivial) fun known => ?_
      · refine keeps_ask stable_true (fun _ _ _ => nofun) fun chance w w' known sound _ _ _ ran => ?_
        cases ran
        refine ⟨sound, fun same => ?_, fun _ => nofun⟩
        simp only [Except.ok.injEq, Bool.or_eq_false_iff, Table.holds_eq_false, decide_eq_false_iff_not] at same
        exact fun key package found own => (same.2 key package found own).elim
      cases known with
      | true => exact (ih (left + 1)).weaken fun _ _ => trivial
      | false =>
        refine Secure.bind _ ((keeps_removeDirAll (stable_bare dir) fun _ bare => bare).weaken fun w after => after rfl)
          (fun _ _ _ => trivial) fun _ => ?_
        refine Secure.bind _ (keeps_recordEvent "cleanup" (stable_bare dir)) (fun _ _ _ => trivial) fun _ => ?_
        exact (ih left).weaken fun _ _ => trivial

theorem keeps_runDownloadPackageWorker (config : WorkerConfig) :
    Keeps (runDownloadPackageWorker config) (fun _ _ => True) fun _ => True := by
  have looks {op : Operation} (same : ∀ chance w w' answer, op.run chance w = .ok (w', answer) → w' = w) :
      Keeps (ask op) (fun _ _ => True) fun _ => True := keeps_look stable_true same
  refine Secure.bind _ (looks ?_) (fun _ _ _ => trivial) fun _ => ?_
  · exact fun _ _ _ _ ran => (Prod.mk.inj (Except.ok.inj ran)).1.symm
  refine Secure.bind (fun _ _ => True) ?_ (fun _ _ _ => trivial) fun _ => ?_
  · refine keeps_calm stable_true fun chance w w' answer _ ran => ?_
    obtain ⟨store, took, rest⟩ := bind_ok ran
    cases rest
    exact Calm.of_store (lets_recover took)
  refine Secure.bind _ (keeps_claimJobs config _) (fun _ _ _ => trivial) fun _ => ?_
  refine Secure.bind _ (keeps_cleanupDuePackages _) (fun _ _ _ => trivial) fun _ => ?_
  refine Secure.bind _ keeps_cleanupDueJobDirs (fun _ _ _ => trivial) fun _ => ?_
  refine Secure.bind (fun _ _ => True) ?_ (fun _ _ _ => trivial) fun _ => ?_
  · refine Secure.bind _ (looks ?_) (fun _ _ _ => trivial) fun dirs => keeps_cleanOrphans 25 dirs
    exact fun _ _ _ _ ran => (Prod.mk.inj (Except.ok.inj ran)).1.symm
  · exact looks fun _ _ _ _ ran => (Prod.mk.inj (Except.ok.inj ran)).1.symm

end

/-! ## Along a run -/

/-- The next move is a relapse of the worker. -/
def relapse (sys : System) : Move → Bool
  | .work chance =>
    match sys.worker with
    | some (.perform op _) => relapses chance sys.world op
    | _ => false
  | _ => false

/-- The packages are sound, and the worker keeps them so from where it is. -/
structure Steady (sys : System) : Prop where
  sound : Sound sys.world
  worker : ∀ worker, sys.worker = some worker → worker.Underway Operation.effect agreed sys.world

theorem steady_initial : Steady System.initial := by
  have empty (key : Uuid) (package : Package) (found : System.initial.world.store.packages.find key = some package) :
      False := by cases show none = some package from found
  refine ⟨⟨fun key package found _ => (empty key package found).elim, fun key _ package _ found _ _ =>
    (empty key package found).elim⟩, fun worker running => ?_⟩
  cases show none = some worker from running

theorem Steady.calm {w : World} (steady : Steady sys) (calm : Calm sys.world w) :
    Steady { sys with world := w } :=
  ⟨calm.sound steady.sound, fun worker running => (steady.worker worker running).moved calm⟩

theorem Steady.next {move : Move} (steady : Steady sys) (clear : relapse sys move = false) :
    Steady (next sys move) := by
  cases move with
  | elapse => exact steady.calm (Calm.of_store (lets_jobs fun _ _ finished => finished))
  | create request id => exact steady.calm (calm_create sys.world request id)
  | call action => exact steady.calm (calm_act sys.world action)
  | launch config =>
    cases busy : sys.busy with
    | true => simpa only [Packages.next, busy, if_true] using steady
    | false =>
      simp only [Packages.next, busy, Bool.false_eq_true, if_false]
      refine ⟨steady.sound, fun worker running => ?_⟩
      rw [← Option.some.inj running]
      exact ⟨fun _ => True, trivial, keeps_runDownloadPackageWorker config⟩
  | work =>
    cases running : sys.worker with
    | none => simpa only [Packages.next, running] using steady
    | some worker =>
      simp only [Packages.next, running]
      obtain ⟨sound, underway⟩ := (steady.worker worker running).advance steady.sound fun op next asks => by
        simpa [agreed, relapse, running, asks] using clear
      refine ⟨sound, fun worker' same => ?_⟩
      rw [← Option.some.inj same]
      exact underway

/-- A relapse takes the job of a retained package out of its finished state. -/
theorem relapse_breaks {move : Move} (relapsed : relapse sys move = true) : ¬ Intact (next sys move).world := by
  obtain ⟨w, worker⟩ := sys
  unfold relapse at relapsed
  split at relapsed
  case h_2 => cases relapsed
  next chance =>
  split at relapsed
  case h_2 => cases relapsed
  next op rest running =>
  dsimp only at running relapsed
  subst running
  unfold relapses at relapsed
  split at relapsed
  case h_2 => cases relapsed
  next config work failure =>
  simp only [Bool.and_eq_true, Option.any_eq_true, decide_eq_true_eq, Table.holds_iff] at relapsed
  obtain ⟨⟨lands, job, found, inside⟩, key, package, held, own, retained⟩ := relapsed
  have ran : (Operation.failOrRetryJob config work failure).run chance w = .ok ({ w with store := { w.store with
      jobs := w.store.jobs.put work.id
        (job.failOrRetry (work.retries config.maxRetries) failure config.failedCleanupHours w.store.now) } }, ()) := by
    simp [Operation.run, Downloads.failOrRetryJob, found, Int.not_le.mpr inside, Bind.bind, Except.bind, pure, Except.pure]
  intro intact
  obtain ⟨finished, there, done⟩ := (intact key package (by
    simpa only [next, Procedure.advance, effect_lands lands ran] using held) retained).job
  simp only [next, Procedure.advance, effect_lands lands ran, own, Table.find_put_self, Option.some.injEq] at there
  subst there
  simp only [Job.failOrRetry] at done
  split at done <;> rcases done with done | done <;> cases done

/-- In every run, whatever fails, the packages are intact in every state exactly where the worker
never relapses. -/
theorem intact_iff (moves : List Move) :
    (∀ earlier later, moves = earlier ++ later → Intact (earlier.foldl next System.initial).world) ↔
      Throughout next (fun sys move => relapse sys move = false) System.initial moves :=
  throughout_iff_of_sound (fun sys => Intact sys.world) (fun _ steady => steady.sound.intact)
    (fun _ _ steady clear => steady.next clear)
    (fun _ _ _ intact => Bool.eq_false_iff.mpr fun relapsed => relapse_breaks relapsed intact) steady_initial moves

/-- A job is created and prepared, and the event that says so cannot be written: the job is
queued again and its directory removed, and the package stays ready. -/
def unrecorded : List Move :=
  let work := Move.work { files := [⟨"media.mp4", 5⟩], packageId := 9, manifestBytes := 2 }
  [.create ⟨1, "phone", 3, 100, []⟩ 7, .launch {}] ++ List.replicate 16 work ++
    [.work { fault := some (.refused "database is unavailable") }, work, work, work]

theorem unrecorded_state :
    let w := (unrecorded.foldl next System.initial).world
    ((w.store.packages.find 9).map fun package => (package.downloadJobId, package.status), (w.store.jobs.find 7).map Job.status, w.disk.find 7,
      (w.filesOf 9).map PackageFile.relativePath) =
      (some (7, .ready), some .queued, none, ["manifest.json", "media.mp4"]) := by
  decide +kernel

theorem unrecorded_loses : ¬ ∀ moves : List Move, Intact (moves.foldl next System.initial).world := by
  intro all
  have state := unrecorded_state
  simp only [Prod.mk.injEq, Option.map_eq_some_iff] at state
  obtain ⟨⟨package, found, own, ready⟩, ⟨job, held, queued⟩, -, -⟩ := state
  obtain ⟨finished, there, done⟩ := (all unrecorded 9 package found (by rw [ready]; rfl)).job
  rw [own] at there
  cases held.symm.trans there
  rw [queued] at done
  rcases done with done | done <;> cases done

end Duskcue.Packages
