import Duskcue.SystemSteps

/-! A household's viewers stay within its ceilings. Only an admission adds an
unreleased reservation, and it counts the household's others first; every other
step keeps the number or lowers it. -/
namespace Duskcue.Playback
open Transaction

variable {failure : Failure} {id : Uuid}

/-! ## Counting reservations -/

/-- A class of reservations that no update enters. -/
def Stable (member : Reservation → Bool) : Prop :=
  ∀ s id old new, Revision s id old new → member new = true → member old = true

/-- Only an admission adds to a stable class. -/
theorem Step.population (step : Step s s') (stable : Stable member) :
    s'.reservations.count (fun _ r => member r) ≤ s.reservations.count (fun _ r => member r) ∨
      ∃ id row command, Admission s id row command ∧ member row = true ∧
        s'.reservations.count (fun _ r => member r) =
          s.reservations.count (fun _ r => member r) + 1 := by
  have admitted : ∀ {id row command}, Admission s id row command →
      (s.reservations.put id row).count (fun _ r => member r) ≤
        s.reservations.count (fun _ r => member r) ∨
      ∃ id' row' command', Admission s id' row' command' ∧ member row' = true ∧
        (s.reservations.put id row).count (fun _ r => member r) =
          s.reservations.count (fun _ r => member r) + 1 := by
    intro id row command admission
    have counted := Table.count_put_new (r := row) (p := fun _ r => member r) admission.absent
    cases belongs : member row with
    | false => exact .inl (by simp [counted, belongs])
    | true => exact .inr ⟨id, row, command, admission, belongs, by simp [counted, belongs]⟩
  cases step with
  | reserve admission | promote admission => exact admitted admission
  | revise revision | release revision => exact .inl (Table.count_put_le revision.found (stable _ _ _ _ revision))
  | expire => exact .inl (Table.count_remove_le ..)
  | _ => exact .inl le_rfl

theorem Revision.attribution (revision : Revision s id old new) :
    new.householdId = old.householdId ∧ new.kind = old.kind ∧ new.instanceId = old.instanceId := by
  have same := revision.same
  unfold Reservation.SameAttribution at same
  rw [same]
  exact ⟨rfl, rfl, rfl⟩

theorem stable_viewers (household : Uuid) :
    Stable fun r => r.householdId = household && r.state ≠ .released := by
  intro s id old new revision member
  simp only [Bool.and_eq_true, decide_eq_true_eq] at member ⊢
  exact ⟨revision.attribution.1 ▸ member.1, revision.live member.2⟩

theorem stable_liveViewers (household : Uuid) :
    Stable fun r => r.householdId = household && r.state ≠ .released && r.kind = .live := by
  intro s id old new revision member
  simp only [Bool.and_eq_true, decide_eq_true_eq] at member ⊢
  exact ⟨⟨revision.attribution.1 ▸ member.1.1, revision.live member.1.2⟩, revision.attribution.2.1 ▸ member.2⟩

/-! ## Ceilings -/

/-- The household's viewers are within the ceilings in force. -/
structure WithinCeilings (household : Uuid) (s : Store) : Prop where
  total : ∀ cap, s.directory.ceiling household = .ok (some cap) → (s.viewers household : Int) ≤ cap
  live : ∀ cap, s.directory.liveCeiling household = some (some cap) →
    (s.liveViewers household : Int) ≤ cap

/-- Two directories with the same ceilings for a household. -/
def SameCeilings (household : Uuid) (d d' : Directory) : Prop :=
  d'.ceiling household = d.ceiling household ∧ d'.liveCeiling household = d.liveCeiling household

theorem allows_succ (room : allows limit count = true)
    (limited : limit = some cap) : ((count + 1 : Nat) : Int) ≤ cap := by
  simp only [allows, limited, Option.all_some, decide_eq_true_eq] at room
  omega

theorem WithinCeilings.step {household : Uuid} {s s' : Store} (within : WithinCeilings household s)
    (step : Step s s') : WithinCeilings household s' := by
  refine ⟨fun cap limited => ?_, fun cap limited => ?_⟩
  · rw [step.directory] at limited
    rcases step.population (stable_viewers household) with fewer | ⟨id, row, command, admission, member, one⟩
    · have before := within.total cap limited
      unfold Store.viewers at before ⊢
      omega
    · simp only [Bool.and_eq_true, decide_eq_true_eq] at member
      obtain ⟨limit, ceiling, room⟩ := admission.room
      rw [member.1, limited] at ceiling
      rw [member.1] at room
      have fits := allows_succ room (Except.ok.inj ceiling).symm
      unfold Store.viewers at fits ⊢
      omega
  · rw [step.directory] at limited
    rcases step.population (stable_liveViewers household) with
      fewer | ⟨id, row, command, admission, member, one⟩
    · have before := within.live cap limited
      unfold Store.liveViewers at before ⊢
      omega
    · simp only [Bool.and_eq_true, decide_eq_true_eq] at member
      obtain ⟨limit, ceiling, room⟩ := admission.liveRoom member.2
      rw [member.1.1, limited] at ceiling
      rw [member.1.1] at room
      have fits := allows_succ room (Option.some.inj ceiling).symm
      unfold Store.liveViewers at fits ⊢
      omega

/-! ## Errors of the statements -/

/-- An error the database raises. -/
def Failure.Raised (failure : Failure) : Prop := ∃ code message, failure = .database code message

section
variable {allowed : Failure → Prop}

theorem raises_require :
    Raises Failure.Raised (require condition code message) := .ensure ⟨code, message, rfl⟩

theorem raises_clock : Raises allowed clockTimestamp := .bind .modify fun _ => .bind .get fun _ => .pure

theorem raises_liftExcept {α : Type} {value : Except Failure α}
    (raised : ∀ failure, value = .error failure → allowed failure) : Raises allowed (liftExcept value) := by
  cases value with
  | ok => exact .pure
  | error failure => exact .throw (raised failure rfl)

theorem raises_refuseTiming (timing : Nat) : Raises Failure.Raised (refuseTiming timing) :=
  .bind raises_require fun _ => .bind raises_require fun _ => raises_require

theorem raises_updateRetention (depth : Nat) (assign : Retention → Retention) :
    Raises Failure.Raised (updateRetention depth assign) :=
  .bind .get fun _ => .bind (.bind raises_require fun _ => raises_require) fun _ =>
    .bind raises_require fun _ => .modify

theorem raises_updateHousehold (household : Uuid) (old new : Int) :
    Raises Failure.Raised (updateHousehold household old new) :=
  .bind raises_require fun _ => .bind raises_require fun _ => .modify

theorem raises_receiveIdentity (id household : Uuid) (retention : Retention) (observedAt : Time) :
    Raises Failure.Raised (receiveIdentity id household retention observedAt) := by
  refine .bind (raises_refuseTiming _) fun _ => .bind raises_require fun _ => .bind .get fun s => ?_
  have room : ∀ total : Int, Raises Failure.Raised (do
      require (total < 4096) .PBR03 "playback receipt capacity unavailable"
      updateRetention 1 (raiseCutoff (observedAt - 5 * minute))) :=
    fun _ => .bind raises_require fun _ => raises_updateRetention _ _
  cases s.households.find household with
  | none => exact .bind (.bind raises_require fun _ => .modify) fun _ => room 0
  | some count => exact room count

theorem raises_updateIntent (id : Uuid) (assign : StartIntent → StartIntent) :
    Raises Failure.Raised (updateIntent id assign) := by
  refine .bind .get fun s => ?_
  cases s.intents.find id with
  | none => exact .pure
  | some =>
    refine .bind (.bind raises_require fun _ => .bind .get fun _ => ?_) fun _ =>
      .bind raises_require fun _ => .modify
    exact .ite (.bind raises_clock fun _ => .pure) .pure

theorem raises_stampRelease (id : Uuid) (new : Reservation) (fresh : Bool) :
    Raises allowed (stampRelease id new fresh) := by
  refine .ite (.bind ?_ fun _ => .pure) .pure
  refine .ite ?_ .pure
  rw [map_eq_pure_bind]
  exact .bind raises_clock fun _ => .pure

theorem raises_playbackReceiptInsert (id : Uuid) (new : Reservation) :
    Raises Failure.Raised (playbackReceiptInsert id new) := by
  refine .bind .get fun s => ?_
  cases s.intents.find id with
  | none =>
    exact .bind raises_clock fun _ => .bind raises_require fun _ =>
      .bind (raises_receiveIdentity _ _ _ _) fun _ => raises_stampRelease _ _ _
  | some =>
    exact .bind raises_clock fun _ => .bind raises_require fun _ =>
      .bind (raises_updateIntent _ _) fun _ => .pure

theorem raises_playbackReceiptAccountInsert (table : ReceiptTable) (id household : Uuid) :
    Raises Failure.Raised (playbackReceiptAccountInsert table id household) := by
  refine .bind .get fun s => .ite .pure ?_
  refine .bind raises_require fun _ => .bind (raises_updateRetention _ _) fun _ => ?_
  cases s.households.find household with
  | none => exact .throw ⟨_, _, rfl⟩
  | some => exact .bind raises_require fun _ => raises_updateHousehold _ _ _

theorem raises_insertReservation (id : Uuid) (row : Reservation) :
    Raises Failure.Raised (insertReservation id row) :=
  .bind (raises_playbackReceiptInsert id row) fun _ => .bind raises_require fun _ =>
    .bind .get fun _ => .bind raises_require fun _ => .bind raises_require fun _ =>
      .bind .modify fun _ => raises_playbackReceiptAccountInsert _ _ _

theorem raises_vodInsert (id : Uuid) (binding : Option Binding) :
    Raises Failure.Raised (vodInsert id binding) := by
  cases binding with
  | none => exact .pure
  | some b =>
    have bound : Raises Failure.Raised (playbackStartCommandBinding id b.command) :=
      .bind .get fun _ => raises_require
    have guarded : Raises Failure.Raised (playbackVodCommandGuardInsert id) :=
      .bind .get fun _ => raises_require
    exact .bind bound fun _ => .bind guarded fun _ => .bind raises_require fun _ =>
      .bind .get fun _ => .bind raises_require fun _ => .modify

end

/-! ## What a claim answers -/

/-- The household has a ceiling that one more viewer of the kind would exceed. -/
def Exceeds (s : Store) (household : Uuid) (kind : Kind) : Prop :=
  (∃ cap, s.directory.ceiling household = .ok (some cap) ∧ cap < s.viewers household + 1) ∨
    kind = .live ∧ ∃ cap, s.directory.liveCeiling household = some (some cap) ∧
      cap < s.liveViewers household + 1

/-- Every check of a claim for a new identity passes, but for those of the viewer
ceilings. What the insert itself checks comes after them. -/
structure Claimable (s : Store) (instanceId : Uuid) (request : Request) (binding : Option Binding)
    (authority : Authority) : Prop where
  encoded : ∃ fingerprint, request.encode = .ok fingerprint
  unfenced : Unfenced s instanceId
  household : (s.directory.users.find request.actor.user).isSome = true
  absent : s.reservations.find request.id = none
  ceiling : ∃ cap, s.directory.ceiling request.actor.user = .ok cap
  verified : ∃ verified, verify s.directory authority request none = .ok verified
  bound : ∀ b, binding = some b → request.subject.kind = .vod ∧
    (b.ambient = none ∨ authority.ambientAllowed = true) ∧ authority.policyHash = b.policy ∧
    ∃ policy, playbackVodPolicy s.directory request.actor.user = some policy ∧
      policy.valid = true ∧ policy.supported = true ∧
      policy.permits b.mode b.encodes b.source4k = true ∧
      (b.encodes = true → allows policy.transcode (s.encoders request.actor.user) = true)

section
variable {s : Store} {instanceId : Uuid} {request : Request} {binding : Option Binding}
  {authority : Authority}

theorem Claimable.binds (claimable : Claimable s instanceId request binding authority) :
    Yields (admitBinding request authority binding) s () s := by
  cases binding with
  | none => exact yields_pure.mpr ⟨rfl, rfl⟩
  | some b =>
    obtain ⟨vod, ambient, hash, policy, known, valid, supported, permits, room⟩ := claimable.bound b rfl
    have ruled : Yields (vodPolicy request.actor.user) s policy s := by
      simp [vodPolicy, known, valid, supported]
    have encoder : (!b.encodes || allows policy.transcode (s.encoders request.actor.user)) = true := by
      cases encodes : b.encodes with
      | false => rfl
      | true => exact room encodes
    have offered : (b.ambient.isNone || (decide (request.subject.kind = .vod) &&
        authority.ambientAllowed)) = true := by
      rcases ambient with none | allowed
      · simp [none]
      · simp [vod, allowed]
    simp only [admitBinding, vodAmbient, yields_expect_bind]
    refine ⟨by simp [vod], yields_bind.mpr ⟨policy, s, ruled, ?_⟩⟩
    simp only [yields_expect_bind, yields_get_bind, yields_expect]
    exact ⟨by simp [permits, hash], offered, encoder, trivial⟩

theorem not_allows : allows limit count = false ↔ ∃ cap, limit = some cap ∧ cap < (count : Int) + 1 := by
  cases limit with
  | none => simp [allows]
  | some cap =>
    simp only [allows, Option.all_some, decide_eq_false_iff_not, Option.some.injEq]
    constructor
    · intro full
      exact ⟨cap, rfl, by omega⟩
    · rintro ⟨_, rfl, full⟩
      omega

theorem Request.encode_error {request : Request}
    (failed : request.encode = .error failure) : failure = .refused .authority := by
  unfold Request.encode at failed
  split at failed
  · exact (Except.error.inj failed).symm
  · cases transport : request.actor.transport <;> simp [transport, CredentialTransport.code] at failed
    exact failed.symm

theorem Request.decode_error
    (failed : Request.decode id fingerprint = .error failure) : failure = .refused .authority := by
  unfold Request.decode at failed
  simp only at failed
  split at failed
  · exact (Except.error.inj failed).symm
  · split at failed
    · rename_i refused
      cases failed
      exact Request.encode_error refused
    · split at failed
      · cases failed
      · exact (Except.error.inj failed).symm

theorem Reservation.receipt_error {r : Reservation} (failed : r.receipt id now fresh owner = .error failure) :
    failure = .refused .authority ∨ failure = .refused .storage := by
  unfold Reservation.receipt at failed
  split at failed
  · rename_i refused
    cases failed
    exact .inl (Request.decode_error refused)
  · split at failed
    · cases failed
    · exact .inr (Except.error.inj failed).symm

/-- What follows the counts raises errors of the database or of storage only. -/
theorem raises_insertClaim (instanceId : Uuid) (request : Request) (binding : Option Binding)
    (fingerprint : Fingerprint) (verified : Verified) (now : Time) :
    Raises (· ≠ .refused .capacity)
      (insertClaim instanceId request binding fingerprint verified now) := by
  have other : ∀ failure : Failure, failure.Raised → failure ≠ .refused .capacity := by
    rintro _ ⟨code, message, rfl⟩
    simp
  refine .bind raises_clock fun _ => .bind raises_clock fun _ => ?_
  refine .bind ((raises_insertReservation _ _).mono other) fun _ => ?_
  refine .bind ((raises_vodInsert _ _).mono other) fun _ => ?_
  refine .bind .get fun _ => .bind (.demand (by simp)) fun row => raises_liftExcept fun failure failed => ?_
  rcases Reservation.receipt_error failed with rfl | rfl <;> simp

theorem exceeds_iff (ceiling : s.directory.ceiling request.actor.user = .ok cap)
    (ok : verify s.directory authority request none = .ok verified) :
    Exceeds s request.actor.user request.subject.kind ↔
      (allows cap (s.viewers request.actor.user) && (decide (request.subject.kind ≠ .live) ||
        allows verified.cap (s.liveViewers request.actor.user))) = false := by
  rw [Bool.and_eq_false_iff, Bool.or_eq_false_iff, not_allows, not_allows, Exceeds, ceiling]
  simp only [Except.ok.injEq, ne_eq, decide_not, Bool.not_eq_eq_eq_not, Bool.not_false, decide_eq_true_eq]
  refine or_congr Iff.rfl (and_congr_right fun live => ?_)
  rw [verify_live ok live]
  simp only [Option.some.injEq]

theorem Claimable.admits (claimable : Claimable s instanceId request binding authority)
    (fingerprint : Fingerprint) (now : Time) :
    (admitClaim instanceId request binding authority fingerprint now).run s =
        .error (.refused .capacity) ↔ Exceeds s request.actor.user request.subject.kind := by
  obtain ⟨cap, ceiling⟩ := claimable.ceiling
  obtain ⟨verified, ok⟩ := claimable.verified
  rw [exceeds_iff ceiling ok, admitClaim, run_bind_of_yields (yields_get.mpr ⟨rfl, rfl⟩),
    run_bind_of_yields (yields_liftExcept.mpr ⟨ceiling, rfl⟩), run_bind_of_yields claimable.binds,
    run_bind_of_yields (yields_get.mpr ⟨rfl, rfl⟩), run_bind_of_yields (yields_liftExcept.mpr ⟨ok, rfl⟩)]
  generalize room : (allows cap (s.viewers request.actor.user) && (decide (request.subject.kind ≠ .live) ||
    allows verified.cap (s.liveViewers request.actor.user))) = fits
  cases fits with
  | true =>
    rw [run_bind_of_yields (a := ()) (yields_expect.mpr ⟨rfl, rfl⟩)]
    exact iff_of_false (fun failed => raises_insertClaim _ _ _ _ _ _ _ _ failed rfl) (by simp)
  | false =>
    exact iff_of_true (run_bind_of_error (expect_fails rfl)) rfl

theorem Claimable.tick (claimable : Claimable s instanceId request binding authority) :
    Claimable s.tick instanceId request binding authority :=
  ⟨claimable.encoded, claimable.unfenced, claimable.household, claimable.absent, claimable.ceiling,
    claimable.verified, claimable.bound⟩

/-- With every other check passed, a claim answers `capacity` exactly when the new
viewer would exceed a ceiling. -/
theorem Claimable.answers (claimable : Claimable s instanceId request binding authority) :
    (claim instanceId request true binding authority).run s = .error (.refused .capacity) ↔
      Exceeds s request.actor.user request.subject.kind := by
  obtain ⟨fingerprint, encoded⟩ := claimable.encoded
  have registered : Yields (requireInstance instanceId true) s () s := by
    obtain ⟨row, found, unfenced⟩ := claimable.unfenced
    simp [requireInstance, found, unfenced]
  have known : Yields (requireHousehold request.actor.user) s () s := by
    simp [requireHousehold, claimable.household]
  have absent : s.tick.reservations.find request.id = none := claimable.absent
  have clock : Yields clockTimestamp s s.tick.clock s.tick := by simp
  rw [claim, transaction_error (by simp), run_bind_of_yields (yields_liftExcept.mpr ⟨encoded, rfl⟩),
    run_bind_of_yields registered, run_bind_of_yields known, run_bind_of_yields clock,
    run_bind_of_yields (yields_get.mpr ⟨rfl, rfl⟩)]
  simp only [absent, if_true]
  exact claimable.tick.admits fingerprint _

end

/-! ## Runs -/

/-- Under constant ceilings the viewers stay within them. -/
theorem ceilings_invariant (household : Uuid) (start : Directory) :
    InvariantOn (SameCeilings household start) fun s =>
      SameCeilings household start s.directory ∧ WithinCeilings household s where
  step := by
    rintro s s' - step ⟨same, within⟩
    exact ⟨step.directory ▸ same, within.step step⟩
  commit := by
    rintro s s' - committed ⟨same, within⟩
    rw [committed.cleared]
    exact ⟨same, within.total, within.live⟩
  administer := by
    rintro s directory permitted ⟨same, within⟩
    refine ⟨permitted, fun cap limited => ?_, fun cap limited => ?_⟩
    · exact within.total cap (same.1.trans (permitted.1.symm.trans limited))
    · exact within.live cap (same.2.trans (permitted.2.symm.trans limited))

/-- The reply is the given error to its caller. -/
def Reply.Answers (reply : Reply) (error : AdmissionError) : Prop :=
  ∃ failure, reply = .refused failure ∧ failure.answer = error

theorem Failure.answer_capacity : failure.answer = .capacity ↔ failure = .refused .capacity := by
  cases failure with
  | refused => simp [Failure.answer]
  | database code => cases code <;> simp [Failure.answer]

theorem perform_answers {α : Type} {sys : System} {tx : Tx α} {reply : α → Reply}
    (accepted : ∀ a failure, reply a ≠ .refused failure) :
    (sys.perform tx reply).1.Answers .capacity ↔ tx.run sys.store = .error (.refused .capacity) := by
  rcases attempt_cases sys tx reply fun _ works => works with ⟨a, s', ran, eq⟩ | ⟨failure, failed, eq⟩
  · rw [System.perform, eq, show tx.run sys.store = .ok (a, s') from ran]
    refine iff_of_false ?_ (by simp)
    rintro ⟨failure, answered, -⟩
    exact accepted a failure answered
  · rw [System.perform, eq, failed]
    simp [Reply.Answers, Failure.answer_capacity]

/-- While the household's ceilings do not change, its viewers stay within them along
every run, and a claim whose other checks pass is refused for capacity exactly
when the new viewer would exceed one. -/
theorem viewers_within_ceilings (digest : ConfigurationResponse → Option String) {sys : System}
    (reachable : Reachable digest sys) {household : Uuid} (moves : List Move)
    (constant : ∀ move ∈ moves, move.Permitted (SameCeilings household sys.store.directory))
    (within : WithinCeilings household sys.store) :
    WithinCeilings household (run digest sys moves).store ∧
    ∀ elapsed instanceId request binding authority, request.actor.user = household →
      Claimable (run digest sys moves).store instanceId request binding authority →
      ((step digest (run digest sys moves)
          ⟨elapsed, .claim instanceId request true binding authority⟩).1.Answers .capacity ↔
        Exceeds (run digest sys moves).store household request.subject.kind) := by
  refine ⟨?_, ?_⟩
  · have same : SameCeilings household sys.store.directory sys.store.directory := ⟨rfl, rfl⟩
    exact ((ceilings_invariant household sys.store.directory).run reachable.sound same ⟨same, within⟩
      constant).2
  · rintro elapsed instanceId request binding authority rfl claimable
    have arrived : Claimable ((run digest sys moves).arrive elapsed).store instanceId request binding
        authority :=
      ⟨claimable.encoded, claimable.unfenced, claimable.household, claimable.absent,
        claimable.ceiling, claimable.verified, claimable.bound⟩
    exact (perform_answers (by simp)).trans arrived.answers

theorem third_viewer_refused :
    WithinCeilings Sample.household (run Sample.digest (run Sample.digest (.deployed Sample.start)
      Sample.opening) Sample.viewing).store ∧
    (step Sample.digest (run Sample.digest (run Sample.digest (.deployed Sample.start)
      Sample.opening) Sample.viewing) ⟨[], .claim Sample.host
        { Sample.request with id := Uuid.v7 1000000000 21 } true none Sample.authority⟩).1.Answers
      .capacity := by
  have ceiling : (run Sample.digest (.deployed Sample.start) Sample.opening).store.directory.ceiling
      Sample.household = .ok (some 2) := by decide +kernel
  have unassigned : (run Sample.digest (.deployed Sample.start)
      Sample.opening).store.directory.liveCeiling Sample.household = none := by decide +kernel
  have within : WithinCeilings Sample.household
      (run Sample.digest (.deployed Sample.start) Sample.opening).store := by
    refine ⟨fun cap limited => ?_, fun cap limited => ?_⟩
    · cases ceiling.symm.trans limited
      decide +kernel
    · cases unassigned.symm.trans limited
  obtain ⟨kept, answers⟩ := viewers_within_ceilings Sample.digest ⟨_, _, rfl⟩
    Sample.viewing (by simp [Sample.viewing, Move.Permitted]) within
  refine ⟨kept, (answers [] Sample.host _ none Sample.authority rfl ?_).mpr (.inl ⟨2, ?_, ?_⟩)⟩
  · refine ⟨⟨⟨Sample.household, 7, 8, 1, 1, 0, .vod 9 10⟩, ?_⟩,
      ⟨⟨1, false, Sample.start, none, none, 2⟩, ?_, rfl⟩, ?_, ?_, ⟨some 2, ?_⟩,
      ⟨⟨none, none, none, none⟩, ?_⟩, by simp⟩ <;> decide +kernel
  · decide +kernel
  · decide +kernel

end Duskcue.Playback
