import Duskcue.SystemSteps

/-! A household's encoders stay within its transcode ceiling. A viewer claims an
encoder through its command until it has a control, and through the control from
then on; a claim is taken by an admission or by a write of the control, each of
which counts the other viewers first, and is given up only when no encoded
output of the viewer is left to complete. -/
namespace Duskcue.Playback
open Transaction

variable {s s' : Store} {id : Uuid}

/-! ## Claims of one viewer -/

theorem claimsEncoder_congr (commands : s'.commands.find id = s.commands.find id)
    (controls : s'.controls.find id = s.controls.find id) :
    s'.claimsEncoder id = s.claimsEncoder id := by
  unfold Store.claimsEncoder
  rw [commands, controls]

theorem claimsEncoder_control (owner : (s.commands.find id).isSome = true) (found : s.controls.find id = some v) :
    s.claimsEncoder id = v.claimEncodes := by
  obtain ⟨c, known⟩ := Option.isSome_iff_exists.mp owner
  simp [Store.claimsEncoder, known, found]

/-- A viewer without a control claims what its command says. -/
theorem claimsEncoder_bare (absent : s.controls.find id = none) :
    s.claimsEncoder id = (s.commands.find id).any Command.encodes := by
  unfold Store.claimsEncoder
  cases s.commands.find id with
  | none => rfl
  | some => simp [absent]

theorem claimsEncoder_retained
    (found : s.controls.find viewer = some v) (commands : s'.commands = s.commands)
    (controls : s'.controls = s.controls.put viewer { v with retainedOperations := retained })
    (other : Uuid) : s'.claimsEncoder other = s.claimsEncoder other := by
  unfold Store.claimsEncoder
  rw [commands, controls, Table.find_put]
  by_cases same : other = viewer
  · subst same
    simp [found]
  · simp [same]

/-! ## Counting claims -/

theorem encoders_mono (household : Uuid) (same : s'.reservations = s.reservations)
    (fewer : ∀ id, s'.claimsEncoder id = true → s.claimsEncoder id = true) :
    s'.encoders household ≤ s.encoders household := by
  unfold Store.encoders
  rw [same]
  refine Table.count_mono fun id r _ chosen => ?_
  simp only [Bool.and_eq_true] at chosen ⊢
  exact ⟨chosen.1, fewer id chosen.2⟩

/-- One viewer's claim aside, a write that adds no other claim leaves one more than
the others at most. -/
theorem encoders_le_others (household id : Uuid) (same : s'.reservations = s.reservations)
    (fewer : ∀ other, other ≠ id → s'.claimsEncoder other = true → s.claimsEncoder other = true) :
    s'.encoders household ≤ s.otherEncoders household id + 1 := by
  refine (Table.count_le_except _ id _).trans (Nat.succ_le_succ ?_)
  rw [same]
  refine Table.count_mono fun other r _ chosen => ?_
  simp only [Bool.and_eq_true, decide_eq_true_eq] at chosen ⊢
  exact ⟨⟨⟨chosen.2.1.1, chosen.1⟩, chosen.2.1.2⟩, fewer other chosen.1 chosen.2.2⟩

/-- A claim of another household's viewer is not counted. -/
theorem encoders_le_of_foreign (household id : Uuid)
    (same : s'.reservations = s.reservations) (found : s.reservations.find id = some r)
    (foreign : r.householdId ≠ household)
    (fewer : ∀ other, other ≠ id → s'.claimsEncoder other = true → s.claimsEncoder other = true) :
    s'.encoders household ≤ s.encoders household := by
  unfold Store.encoders
  rw [same]
  refine Table.count_mono fun other row held chosen => ?_
  simp only [Bool.and_eq_true, decide_eq_true_eq] at chosen ⊢
  refine ⟨chosen.1, fewer other ?_ chosen.2⟩
  rintro rfl
  cases found.symm.trans held
  exact foreign chosen.1.1

/-! ## The ceiling -/

/-- The household's transcode ceiling; none without a policy. -/
def Directory.transcodeCeiling (d : Directory) (household : Uuid) : Option Int :=
  (playbackVodPolicy d household).bind Policy.transcode

/-- The household's encoders are within the ceiling in force. -/
def WithinEncoders (household : Uuid) (s : Store) : Prop :=
  ∀ cap, s.directory.transcodeCeiling household = some cap → (s.encoders household : Int) ≤ cap

section
variable {household : Uuid} {s s' : Store}

section
variable (within : WithinEncoders household s)
include within

theorem WithinEncoders.fewer (directory : s'.directory = s.directory)
    (fewer : s'.encoders household ≤ s.encoders household) : WithinEncoders household s' := by
  intro cap limited
  rw [directory] at limited
  have before := within cap limited
  omega

theorem WithinEncoders.write (write : ControlWrite s id old new) (directory : s'.directory = s.directory)
    (same : s'.reservations = s.reservations)
    (others : ∀ other, other ≠ id → s'.claimsEncoder other = s.claimsEncoder other)
    (claims : s'.claimsEncoder id = new.claimEncodes)
    (held : ∀ v, old = some v → s.claimsEncoder id = v.claimEncodes) :
    WithinEncoders household s' := by
  have fewer : ∀ other, other ≠ id → s'.claimsEncoder other = true → s.claimsEncoder other = true :=
    fun other ne claimed => others other ne ▸ claimed
  by_cases taken : new.claimEncodes = true ∧ ∀ v, old = some v → v.claimEncodes = false
  · obtain ⟨r, policy, found, known, room⟩ := write.capacity taken.1 taken.2
    by_cases own : r.householdId = household
    · subst own
      intro cap limited
      rw [directory, Directory.transcodeCeiling, known] at limited
      have others := encoders_le_others r.householdId id same fewer
      have fits := room cap limited
      omega
    · exact within.fewer directory (encoders_le_of_foreign household id same found own fewer)
  · refine within.fewer directory (encoders_mono household same fun other claimed => ?_)
    by_cases ne : other = id
    · subst ne
      rw [claims] at claimed
      -- The claim was the old control's already.
      by_contra unclaimed
      refine taken ⟨claimed, fun v known => ?_⟩
      rw [← held v known]
      exact Bool.eq_false_iff.mpr unclaimed
    · exact fewer other ne claimed

theorem WithinEncoders.retained {retained : Int} (found : s.controls.find viewer = some v)
    (directory : s'.directory = s.directory) (reservations : s'.reservations = s.reservations)
    (commands : s'.commands = s.commands)
    (controls : s'.controls = s.controls.put viewer { v with retainedOperations := retained }) :
    WithinEncoders household s' := by
  refine within.fewer directory (encoders_mono household reservations fun other claimed => ?_)
  rwa [claimsEncoder_retained found commands controls] at claimed

/-- An admission that brings an encoder has counted the household's others. -/
theorem WithinEncoders.admission (rooted : Rooted s)
    (admission : Admission s id row command) (directory : s'.directory = s.directory)
    (reservations : s'.reservations = s.reservations.put id row)
    (commands : s'.commands = command.elim s.commands (s.commands.put id))
    (controls : s'.controls = s.controls) : WithinEncoders household s' := by
  have unknown : s.commands.find id = none := by
    cases known : s.commands.find id with
    | none => rfl
    | some c => simpa [admission.absent] using rooted.commands id c known
  have uncontrolled : s.controls.find id = none := by
    cases known : s.controls.find id with
    | none => rfl
    | some v => simpa [unknown] using rooted.controls id v known
  have others : ∀ other, other ≠ id → s'.claimsEncoder other = s.claimsEncoder other := by
    intro other ne
    refine claimsEncoder_congr ?_ (by rw [controls])
    rw [commands, Table.find_elim_put, if_neg ne]
  have own : s'.claimsEncoder id = command.any Command.encodes := by
    rw [claimsEncoder_bare (by rw [controls, uncontrolled]), commands, Table.find_elim_put, if_pos rfl, unknown]
    cases command <;> rfl
  have counted : s'.encoders household = s.encoders household +
      (decide (row.householdId = household) && decide (row.state ≠ .released) &&
        s'.claimsEncoder id).toNat := by
    unfold Store.encoders
    rw [reservations, Table.count_put_new admission.absent]
    congr 1
    refine Table.count_congr fun other r found => ?_
    have ne : other ≠ id := by
      rintro rfl
      cases admission.absent.symm.trans found
    rw [others other ne]
  by_cases takes : (decide (row.householdId = household) && decide (row.state ≠ .released) &&
      s'.claimsEncoder id) = true
  · intro cap limited
    rw [takes, Bool.toNat_true] at counted
    simp only [Bool.and_eq_true, decide_eq_true_eq] at takes
    obtain ⟨⟨rfl, -⟩, claimed⟩ := takes
    rw [own, Option.any_eq_true] at claimed
    obtain ⟨c, brought, encodes⟩ := claimed
    obtain ⟨policy, known, room⟩ := admission.encoderRoom c brought encodes
    rw [directory, Directory.transcodeCeiling, known] at limited
    have limit : policy.transcode = some cap := limited
    rw [limit] at room
    simp only [allows, Option.all_some, decide_eq_true_eq] at room
    omega
  · rw [Bool.not_eq_true] at takes
    rw [takes] at counted
    exact within.fewer directory (le_of_eq counted)

theorem WithinEncoders.revision (revision : Revision s id old new) (directory : s'.directory = s.directory)
    (reservations : s'.reservations = s.reservations.put id new) (commands : s'.commands = s.commands)
    (controls : s'.controls = s.controls) : WithinEncoders household s' := by
  refine within.fewer directory ?_
  have claims : ∀ other, s'.claimsEncoder other = s.claimsEncoder other :=
    fun other => claimsEncoder_congr (by rw [commands]) (by rw [controls])
  unfold Store.encoders
  rw [reservations]
  simp only [claims]
  refine Table.count_put_le revision.found fun chosen => ?_
  have attribution : new.householdId = old.householdId := by
    have same := revision.same
    unfold Reservation.SameAttribution at same
    rw [same]
  simp only [Bool.and_eq_true, decide_eq_true_eq] at chosen ⊢
  exact ⟨⟨attribution ▸ chosen.1.1, revision.live chosen.1.2⟩, chosen.2⟩

theorem WithinEncoders.step (rooted : Rooted s) (step : Step s s') : WithinEncoders household s' := by
  cases step with
  | reserve admission | promote admission => exact within.admission rooted admission rfl rfl rfl rfl
  | revise revision | release revision => exact within.revision revision rfl rfl rfl rfl
  | @expire id old accounted found released expired free account =>
    have kept : accounted.directory = s.directory := by
      obtain ⟨-, rfl⟩ | ⟨-, -, -, rfl⟩ := account <;> rfl
    refine within.fewer kept ?_
    refine le_trans ?_ (Table.count_remove_le _ id _)
    refine Table.count_mono fun other r held chosen => ?_
    rw [Table.find_remove] at held
    split at held
    · cases held
    · rename_i ne
      simp only [Bool.and_eq_true] at chosen ⊢
      refine ⟨chosen.1, ?_⟩
      rw [← chosen.2]
      apply claimsEncoder_congr
      · exact ((Table.find_remove ..).trans (if_neg ne)).symm
      · exact ((Table.find_remove ..).trans (if_neg ne)).symm
  | @command id old new found same =>
    refine within.fewer rfl (encoders_mono household rfl fun other claimed => ?_)
    have encodes : new.encodes = old.encodes := by
      unfold Command.SameAttribution at same
      rw [same]
    unfold Store.claimsEncoder at claimed ⊢
    rw [Table.find_put] at claimed
    by_cases ne : other = id
    · subst ne
      simpa [found, encodes] using claimed
    · simpa [ne] using claimed
  | @insertControl _ _ _ owner _ write =>
    refine within.write write rfl rfl ?_ ?_ (by simp)
    · exact fun other ne => claimsEncoder_congr rfl (Table.find_put_ne ne)
    · exact claimsEncoder_control owner (Table.find_put_self ..)
  | @updateControl id old _ update =>
    have owner := rooted.controls id old update.found
    refine within.write update.write rfl rfl ?_ ?_ ?_
    · exact fun other ne => claimsEncoder_congr rfl (Table.find_put_ne ne)
    · exact claimsEncoder_control owner (Table.find_put_self ..)
    · rintro v ⟨⟩
      exact claimsEncoder_control owner update.found
  | insertOperation insertion => exact within.retained insertion.viewer rfl rfl rfl rfl
  | deleteOperation deletion => exact within.retained deletion.viewer rfl rfl rfl rfl
  | _ => exact within

end

end

/-! ## Obligations -/

/-- The viewer of an encoded output that is not completed claims an encoder, or the
output is still to be judged at COMMIT. -/
def Owed (s : Store) : Prop :=
  ∀ id o, s.outputs.find id = some o → o.encodes = true → o.resourcesCompleted = false →
    (∃ v, s.controls.find o.reservationId = some v ∧ v.claimEncodes = true) ∨
      .output o.reservationId id ∈ s.deferred

section
variable {s s' : Store}

/-- A control that is written claims an encoder while one of its outputs owes it. -/
theorem Owed.write (owed : Owed s) (write : ControlWrite s viewer old new) (outputs : s'.outputs = s.outputs)
    (controls : s'.controls = s.controls.put viewer new)
    (deferred : ∀ event ∈ s.deferred, event ∈ s'.deferred) : Owed s' := by
  intro id o found encodes running
  rw [outputs] at found
  by_cases own : o.reservationId = viewer
  · refine .inl ⟨new, by rw [controls, own, Table.find_put_self], ?_⟩
    by_contra unclaimed
    have completed := write.owed (Bool.eq_false_iff.mpr unclaimed) id o found own encodes
    cases running.symm.trans completed
  · rw [controls, Table.find_put_ne own]
    exact (owed id o found encodes running).imp_right (deferred _)

theorem Owed.retained (owed : Owed s) {retained : Int}
    (known : s.controls.find viewer = some v) (outputs : s'.outputs = s.outputs)
    (controls : s'.controls = s.controls.put viewer { v with retainedOperations := retained })
    (deferred : ∀ event ∈ s.deferred, event ∈ s'.deferred) : Owed s' := by
  intro id o found encodes running
  rw [outputs] at found
  rcases owed id o found encodes running with ⟨w, control, claims⟩ | queued
  · left
    by_cases own : o.reservationId = viewer
    · rw [own, known] at control
      cases control
      refine ⟨{ v with retainedOperations := retained }, ?_, claims⟩
      rw [controls, own, Table.find_put_self]
    · exact ⟨w, by rw [controls, Table.find_put_ne own, control], claims⟩
  · exact .inr (deferred _ queued)

theorem Owed.output (owed : Owed s) {output : Uuid}
    (outputs : s'.outputs = s.outputs.put output row) (controls : s'.controls = s.controls)
    (deferred : s'.deferred = .output row.reservationId output :: s.deferred) : Owed s' := by
  intro id o found encodes running
  rw [outputs, Table.find_put] at found
  rw [controls, deferred]
  split at found
  · rename_i same
    cases found
    exact .inr (by simp [same])
  · exact (owed id o found encodes running).imp_right (List.mem_cons_of_mem _)

theorem Owed.step (owed : Owed s) (step : Step s s') : Owed s' := by
  cases step with
  | reserve | promote | updateOperation =>
    intro id o found encodes running
    exact (owed id o found encodes running).imp_right (List.mem_cons_of_mem _)
  | @expire viewer _ accounted _ _ _ _ account =>
    have queue : accounted.deferred = s.deferred := by
      obtain ⟨-, rfl⟩ | ⟨-, -, -, rfl⟩ := account <;> rfl
    intro id o found encodes running
    obtain ⟨kept, other⟩ := Table.find_discard.mp found
    have ne : o.reservationId ≠ viewer := of_decide_eq_false other
    rcases owed id o kept encodes running with ⟨v, control, claims⟩ | queued
    · exact .inl ⟨v, (Table.find_remove ..).trans ((if_neg ne).trans control), claims⟩
    · exact .inr (queue ▸ queued)
  | insertOutput | updateOutput => exact owed.output rfl rfl rfl
  | deleteOutput =>
    intro id o found encodes running
    rw [Table.find_remove] at found
    split at found
    · cases found
    · exact owed id o found encodes running
  | insertControl _ _ _ write =>
    exact owed.write write rfl rfl fun _ => List.mem_cons_of_mem _
  | updateControl update => exact owed.write update.write rfl rfl fun _ => List.mem_cons_of_mem _
  | insertOperation insertion =>
    exact owed.retained insertion.viewer rfl rfl
      fun _ queued => List.mem_cons_of_mem _ (List.mem_cons_of_mem _ queued)
  | deleteOperation deletion =>
    exact owed.retained deletion.viewer rfl rfl fun _ => List.mem_cons_of_mem _
  | _ => exact owed

end

/-- What the graph guard made sure of when it ran for an output. -/
theorem judged_output {o : OutputRow} (judged : Deferred.satisfied s (.output o.reservationId id) = true)
    (found : s.outputs.find id = some o) (owner : (s.commands.find o.reservationId).isSome = true)
    (encodes : o.encodes = true) (running : o.resourcesCompleted = false) :
    ∃ v, s.controls.find o.reservationId = some v ∧ v.claimEncodes = true := by
  obtain ⟨c, command⟩ := Option.isSome_iff_exists.mp owner
  cases control : s.controls.find o.reservationId with
  | none => simp [Deferred.satisfied, playbackVodGraphGuard, control, command] at judged
  | some v =>
    simp only [Deferred.satisfied, playbackVodGraphGuard, control, command,
      playbackVodGraphGuardOutput, found, Option.all_some, Bool.and_eq_true, encodes, running,
      Bool.not_true, Bool.false_or] at judged
    exact ⟨v, rfl, judged.1.2⟩

theorem owed_invariant : Invariant Owed where
  step := fun _ _ _ step owed => owed.step step
  commit := by
    intro s s' consistent committed owed id o found encodes running
    rw [committed.cleared] at found ⊢
    refine .inl ((owed id o found encodes running).elim (fun claims => claims) fun queued => ?_)
    exact judged_output (committed.judged _ queued) found (consistent.rooted.outputs id o found) encodes running
  administer := fun _ _ _ owed => owed

/-! ## Runs -/

/-- Two directories with the same transcode ceiling for a household. -/
def SameTranscode (household : Uuid) (d d' : Directory) : Prop :=
  d'.transcodeCeiling household = d.transcodeCeiling household

theorem encoders_invariant (household : Uuid) (start : Directory) :
    InvariantOn (SameTranscode household start) fun s =>
      SameTranscode household start s.directory ∧ WithinEncoders household s where
  step := by
    rintro s s' consistent step ⟨same, within⟩
    exact ⟨step.directory ▸ same, within.step consistent.rooted step⟩
  commit := by
    rintro s s' - committed ⟨same, within⟩
    rw [committed.cleared]
    exact ⟨same, within⟩
  administer := by
    rintro s directory permitted ⟨same, within⟩
    exact ⟨permitted, fun cap limited => within cap (same.trans (permitted.symm.trans limited))⟩

/-- The viewer is one of those the encoder count of its household counts. -/
def HoldsEncoder (s : Store) (viewer : Uuid) : Prop :=
  ∃ r, s.reservations.find viewer = some r ∧ r.state ≠ .released ∧ s.claimsEncoder viewer = true

/-- While the household's transcode ceiling does not change, its encoders stay within
it along every run, and whoever owns an encoded output that is not completed is
counted among them. -/
theorem encoders_within_ceiling (digest : ConfigurationResponse → Option String) {sys : System}
    (reachable : Reachable digest sys) {household : Uuid} (moves : List Move)
    (constant : ∀ move ∈ moves, move.Permitted (SameTranscode household sys.store.directory))
    (within : WithinEncoders household sys.store) :
    WithinEncoders household (run digest sys moves).store ∧
    ∀ output o, (run digest sys moves).store.outputs.find output = some o → o.encodes = true →
      o.resourcesCompleted = false → HoldsEncoder (run digest sys moves).store o.reservationId := by
  refine ⟨?_, ?_⟩
  · have same : SameTranscode household sys.store.directory sys.store.directory := rfl
    exact ((encoders_invariant household sys.store.directory).run reachable.sound same ⟨same, within⟩
      constant).2
  · intro output o found encodes running
    have later := reachable.run moves
    have settled := later.sound.settled
    have owed : Owed (run digest sys moves).store :=
      later.invariant owed_invariant fun now id o found => by simp [Store.migrated] at found
    have owner := settled.rooted.outputs output o found
    obtain ⟨c, command⟩ := Option.isSome_iff_exists.mp owner
    obtain ⟨r, reservation⟩ := Option.isSome_iff_exists.mp (settled.rooted.commands _ c command)
    refine ⟨r, reservation, fun released => ?_, ?_⟩
    · have completed := settled.served.outputs _ r reservation released output o found rfl
      cases running.symm.trans completed
    · rcases owed output o found encodes running with ⟨v, control, claims⟩ | queued
      · rw [claimsEncoder_control owner control, claims]
      · simp [settled.idle] at queued

/-- One encoder in use, the only one there is. -/
theorem published_encoder_counted :
    WithinEncoders Sample.household (run Sample.digest (.deployed Sample.start) Sample.playing).store ∧
    HoldsEncoder (run Sample.digest (.deployed Sample.start) Sample.playing).store
      Sample.request.id := by
  have split : run Sample.digest (.deployed Sample.start) Sample.playing =
      run Sample.digest (run Sample.digest (.deployed Sample.start) Sample.opening)
        (Sample.playing.drop 2) := run_append _ _ _
  have within : WithinEncoders Sample.household
      (run Sample.digest (.deployed Sample.start) Sample.opening).store := by
    intro cap limited
    have ceiling : (run Sample.digest (.deployed Sample.start)
        Sample.opening).store.directory.transcodeCeiling Sample.household = some 1 := by decide +kernel
    cases ceiling.symm.trans limited
    decide +kernel
  rw [split]
  obtain ⟨kept, counted⟩ := encoders_within_ceiling Sample.digest ⟨_, _, rfl⟩
    (Sample.playing.drop 2) (by simp [Sample.playing, Sample.opening, Move.Permitted]) within
  refine ⟨kept, ?_⟩
  have output : ((run Sample.digest (run Sample.digest (.deployed Sample.start) Sample.opening)
      (Sample.playing.drop 2)).store.outputs.find Sample.first.id).any (fun o =>
        o.encodes && !o.resourcesCompleted && o.reservationId = Sample.request.id) = true := by
    decide +kernel
  obtain ⟨o, found, row⟩ := Option.any_eq_true _ _ |>.mp output
  simp only [Bool.and_eq_true, Bool.not_eq_true', decide_eq_true_eq] at row
  exact row.2 ▸ counted _ o found row.1.1 row.1.2

end Duskcue.Playback
