import Duskcue.RequestIdentity

/-! Change requests against the configuration they name. An acceptance moves the
control past the revision its condition digests, so no other change is accepted
under that condition; an operation identity is spent with its insert, and below
the cutoff once its receipt is pruned. -/
namespace Duskcue.Playback
open Transaction

/-! ## Conditions -/

/-- The digest tells configurations apart. -/
def Injective (digest : ConfigurationResponse → Option String) : Prop :=
  ∀ a b hex, digest a = some hex → digest b = some hex → a = b

theorem etag_injective (injective : Injective digest) (first : etag digest a = some tag)
    (second : etag digest b = some tag) : a = b := by
  obtain ⟨x, digested, shape⟩ := Option.map_eq_some_iff.mp first
  obtain ⟨y, digested', shape'⟩ := Option.map_eq_some_iff.mp second
  have same : x = y := by
    rw [← shape', String.append_left_inj, String.append_right_inj] at shape
    exact shape
  subst same
  exact injective a b x digested digested'

/-! ## Revisions -/

/-- The viewer's control is beyond the revision, or the viewer is gone for good. -/
def Past (viewer : Uuid) (revision : Int) (s : Store) : Prop :=
  (∃ v, s.controls.find viewer = some v ∧ revision < v.revision) ∨
    s.reservations.find viewer = none ∧ Barred viewer s

variable {s s' : Store}

/-- The revision and what is spent of the budget never go back, and a control under one
revision is the same but for a later checkpoint. -/
structure Control.Follows (old new : Control) : Prop where
  forward : old.revision ≤ new.revision
  same : new.revision = old.revision → ¬ old.Changed new ∧ old.checkpointSequence ≤ new.checkpointSequence
  retiring : old.state = .retiring → new.state = .retiring
  spends : old.recoveryBudget.Spends new.recoveryBudget

theorem Control.Follows.retained (v : Control) (count : Int) : v.Follows { v with retainedOperations := count } :=
  ⟨le_rfl, fun _ => ⟨by simp [Control.Changed], le_rfl⟩, id, le_rfl, id, id, id⟩

theorem ControlUpdate.follows (update : ControlUpdate s viewer old new) : old.Follows new := by
  refine ⟨update.revision, fun same => ⟨fun changed => (update.bumped changed).ne' same, ?_⟩, update.retiring,
    update.spends⟩
  rcases update.checkpoint with kept | ⟨other, -⟩ | ⟨-, later, -⟩
  · exact kept.1.ge
  · exact absurd same (update.bumped (.inr (.inl other))).ne'
  · exact later.le

/-- A row is there behind the update of some row. -/
theorem follows_put {ρ : Type} {keeps : ρ → ρ → Prop} {t : Table Uuid ρ} {row old new : ρ}
    (found : t.find key = some row) (same : keeps row row) (known : t.find other = some old) (moved : keeps old new) :
    ∃ last, (t.put other new).find key = some last ∧ keeps row last := by
  by_cases here : key = other
  · subst here
    cases found.symm.trans known
    exact ⟨new, Table.find_put_self .., moved⟩
  · exact ⟨row, (Table.find_put_ne here).trans found, same⟩

/-- A control goes only with its reservation. -/
theorem Step.follows (step : Step s s') (found : s.controls.find viewer = some v) :
    (∃ w, s'.controls.find viewer = some w ∧ v.Follows w) ∨ s'.reservations.find viewer = none := by
  cases step with
  | @expire id =>
    by_cases same : viewer = id
    · exact .inr ((Table.find_remove ..).trans (if_pos same))
    · exact .inl ⟨v, by grind, .retained v _⟩
  | insertControl absent => exact .inl ⟨v, by grind, .retained v _⟩
  | updateControl update => exact .inl (follows_put found (.retained v _) update.found update.follows)
  | insertOperation insertion => exact .inl (follows_put found (.retained v _) insertion.viewer (.retained _ _))
  | deleteOperation deletion => exact .inl (follows_put found (.retained v _) deletion.viewer (.retained _ _))
  | _ => exact .inl ⟨v, found, .retained v _⟩

theorem past_invariant (viewer : Uuid) (revision : Int) :
    Invariant fun s => Promotions s ∧ Past viewer revision s := by
  refine .of_steps (fun s s' consistent step ⟨promotions, past⟩ => ?_) fun _ _ _ ⟨promotions, past⟩ =>
    ⟨promotions, past.imp_right fun ⟨absent, barred⟩ => ⟨absent, barred.used, barred.known⟩⟩
  refine ⟨promotions_invariant.step s s' consistent step promotions, ?_⟩
  rcases past with ⟨v, found, beyond⟩ | ⟨absent, barred⟩
  · rcases step.follows found with ⟨w, kept, follows⟩ | gone
    · exact .inl ⟨w, kept, lt_of_lt_of_le beyond follows.forward⟩
    · exact .inr ⟨gone, (promotions.barred (consistent.rooted.admitted found)).step step⟩
  · exact .inr ⟨barred.absent step absent, barred.step step⟩

/-! ## Spent identities -/

/-- The operation is gone and below the cutoff. -/
def Pruned (id : Uuid) (s : Store) : Prop :=
  s.operations.find id = none ∧ ¬ Timely s.operationRetention.cutoff id

variable {id : Uuid}

theorem Pruned.step (pruned : Pruned id s) (step : Step s s') : Pruned id s' := by
  have gone : s'.operations.find id = none := by
    obtain ⟨absent, expired⟩ := pruned
    cases step with
    | expire _ _ _ _ _ account => obtain ⟨-, rfl⟩ | ⟨-, -, -, rfl⟩ := account <;> exact absent
    | @insertOperation other _ _ _ insertion =>
      have ne : id ≠ other := by
        rintro rfl
        exact expired insertion.timely
      exact (Table.find_put_ne ne).trans absent
    | @updateOperation other _ _ update =>
      have ne : id ≠ other := by
        rintro rfl
        cases absent.symm.trans update.found
      exact (Table.find_put_ne ne).trans absent
    | deleteOperation =>
      rw [Table.find_remove]
      split
      · rfl
      · exact absent
    | _ => exact absent
  refine ⟨gone, ?_⟩
  rcases (OperationSpent.step (.inr pruned.2) step : OperationSpent s' id) with there | expired
  · simp [gone] at there
  · exact expired

theorem pruned_invariant (id : Uuid) : Invariant (Pruned id) :=
  .of_steps (fun _ _ _ step pruned => pruned.step step) fun _ _ _ pruned => pruned

theorem spent_invariant (id : Uuid) : Invariant fun s => OperationSpent s id :=
  .of_steps (fun _ _ _ step spent => spent.step step) fun _ _ _ spent => spent

/-- The operation is there as it was accepted, or pruned. -/
def Recorded (request : Request) (input : Acceptance) (s : Store) : Prop :=
  (∃ row, s.operations.find input.operation = some row ∧ row.reservationId = request.id ∧
    row.intentHash = input.hash ∧ row.condition = input.condition) ∨ Pruned input.operation s

theorem Recorded.step {request : Request} {input : Acceptance}
    (recorded : Recorded request input s) (step : Step s s') : Recorded request input s' := by
  rcases recorded with ⟨row, found, attributes⟩ | pruned
  · cases step with
    | expire _ _ _ _ _ account =>
      obtain ⟨-, rfl⟩ | ⟨-, -, -, rfl⟩ := account <;> exact .inl ⟨row, found, attributes⟩
    | @insertOperation other _ _ _ insertion =>
      have ne : input.operation ≠ other := by
        intro same
        cases insertion.absent.symm.trans (same ▸ found)
      exact .inl ⟨row, (Table.find_put_ne ne).trans found, attributes⟩
    | @updateOperation other _ new update =>
      by_cases same : input.operation = other
      · rw [same, update.found] at found
        cases found
        have unchanged := update.same
        unfold Operation.SameAttribution at unchanged
        refine .inl ⟨new, same ▸ Table.find_put_self .., ?_⟩
        rw [unchanged]
        exact attributes
      · exact .inl ⟨row, (Table.find_put_ne same).trans found, attributes⟩
    | @deleteOperation other _ _ deletion =>
      by_cases same : input.operation = other
      · exact .inr ⟨(Table.find_remove ..).trans (if_pos same), same ▸ deletion.expired⟩
      · exact .inl ⟨row, (Table.find_remove ..).trans ((if_neg same).trans found), attributes⟩
    | _ => exact .inl ⟨row, found, attributes⟩
  · exact .inr (pruned.step step)

theorem recorded_invariant (request : Request) (input : Acceptance) : Invariant (Recorded request input) :=
  .of_steps (fun _ _ _ step recorded => recorded.step step) fun _ _ _ recorded => recorded

/-! ## Acceptances along a run -/

section
variable (digest : ConfigurationResponse → Option String)

/-- The change a move is answered with as a new operation. -/
def accepted (sys : System) (move : Move) : Option (Request × Acceptance) :=
  match move.action, (step digest sys move).1 with
  | .accept _ request _ _ _ input _, .operation _ true => some (request, input)
  | _, _ => none

def acceptsOperation (id : Uuid) (sys : System) (move : Move) : Bool :=
  (accepted digest sys move).any fun change => change.2.operation = id

def acceptsUnder (condition : String) (sys : System) (move : Move) : Bool :=
  (accepted digest sys move).any fun change => change.2.condition = condition

end

variable {digest : ConfigurationResponse → Option String}

theorem accepted_recorded (sound : Sound sys) (happens : accepted digest sys move = some (request, input)) :
    ∃ before after value row, Accepted digest sys.store (next digest sys move).store request input
      before after value row := by
  obtain ⟨elapsed, action⟩ := move
  cases action with
  | accept instanceId asked binding authority target change process =>
    have settled := (sound.arrive elapsed).settled
    rcases attempt_cases (sys.arrive elapsed)
      (accept digest instanceId asked binding authority target change process)
      (fun reply => .operation reply.1 reply.2) (fun reply works =>
        if reply.2 then
          works.put change.operation ⟨instanceId, asked, binding, change.expected, target, .queued⟩
        else works) with ⟨reply, s', ran, eq⟩ | ⟨failure, -, eq⟩
    · simp only [accepted, step, act, eq] at happens
      obtain ⟨-, ⟨stale, -⟩ | ⟨fresh, before, after, value, row, recorded, -⟩⟩ := accept_commits settled ran
      · simp [stale] at happens
      · simp only [fresh, Option.some.injEq, Prod.mk.injEq] at happens
        obtain ⟨rfl, rfl⟩ := happens
        refine ⟨before, after, value, row, ?_⟩
        simp only [next, step, act, eq]
        exact ⟨recorded.absent, recorded.viewer, recorded.tagged, recorded.named, recorded.revision,
          recorded.moved, recorded.bumped, recorded.stored, recorded.owner, recorded.hash,
          recorded.condition, recorded.expected, recorded.fresh⟩
    · simp [accepted, step, act, eq] at happens
  | _ => simp [accepted] at happens

theorem operation_accepted_once (id : Uuid) (now : Time) (moves : List Move) :
    occurrences (next digest) (acceptsOperation digest id) (.deployed now) moves ≤ 1 := by
  have kept : ∀ sys move, Sound sys → Sound (next digest sys move) :=
    fun _ move sound => (next_advances sound move).sound
  refine occurrences_le_one (fun sys => OperationSpent sys.store id) kept
    (fun sys move sound spent => (spent_invariant id).next sound spent move) ?_ ?_
    (sound_deployed now) moves
  · intro sys move sound spent
    by_contra happens
    rw [Bool.not_eq_false, acceptsOperation, Option.any_eq_true] at happens
    obtain ⟨⟨request, input⟩, taken, same⟩ := happens
    obtain rfl : input.operation = id := of_decide_eq_true same
    obtain ⟨before, after, value, row, change⟩ := accepted_recorded sound taken
    rcases spent with there | expired
    · simp [change.absent] at there
    · have pruned : Pruned input.operation (next digest sys move).store :=
        (pruned_invariant _).next sound ⟨change.absent, expired⟩ move
      cases pruned.1.symm.trans change.stored
  · intro sys move sound happens
    rw [acceptsOperation, Option.any_eq_true] at happens
    obtain ⟨⟨request, input⟩, taken, same⟩ := happens
    obtain rfl : input.operation = id := of_decide_eq_true same
    obtain ⟨before, after, value, row, change⟩ := accepted_recorded sound taken
    exact .inl (by simp [change.stored])

theorem condition_accepted_once (injective : Injective digest) (condition : String) (now : Time)
    (moves : List Move) :
    occurrences (next digest) (acceptsUnder digest condition) (.deployed now) moves ≤ 1 := by
  refine occurrences_le_one (fun sys => ∀ value, etag digest value = some condition →
      Past value.requestId value.revision sys.store)
    (fun sys move (admissible : Admissible sys) => admissible.next move) ?_ ?_ ?_
    (admissible_deployed now) moves
  · intro sys move admissible spent value tagged
    exact ((past_invariant value.requestId value.revision).next admissible.sound
      ⟨admissible.promotions, spent value tagged⟩ move).2
  · intro sys move admissible spent
    by_contra happens
    rw [Bool.not_eq_false, acceptsUnder, Option.any_eq_true] at happens
    obtain ⟨⟨request, input⟩, taken, same⟩ := happens
    obtain rfl : input.condition = condition := of_decide_eq_true same
    obtain ⟨before, after, value, row, change⟩ := accepted_recorded admissible.sound taken
    have past := spent value change.tagged
    rw [change.named, change.revision] at past
    rcases past with ⟨v, found, beyond⟩ | ⟨absent, -⟩
    · cases change.viewer.symm.trans found
      exact lt_irrefl _ beyond
    · have rooted := admissible.sound.settled.rooted
      obtain ⟨c, command⟩ := Option.isSome_iff_exists.mp (rooted.controls _ _ change.viewer)
      have admitted := rooted.commands _ c command
      rw [absent] at admitted
      cases admitted
  · intro sys move admissible happens value tagged
    rw [acceptsUnder, Option.any_eq_true] at happens
    obtain ⟨⟨request, input⟩, taken, same⟩ := happens
    obtain rfl : input.condition = condition := of_decide_eq_true same
    obtain ⟨before, after, value', row, change⟩ := accepted_recorded admissible.sound taken
    obtain rfl : value = value' := etag_injective injective tagged change.tagged
    left
    rw [change.named, change.revision]
    exact ⟨after, change.moved, change.bumped⟩

/-! ## Repeats -/

/-- How a repeat of an accepted operation is answered: by its receipt while that is
there, and only to the same change of the same viewer. -/
def repeatAnswer (s : Store) (request : Request) (input : Acceptance) (viewer : Uuid) (hash : Hash)
    (condition : String) (receipt : Operation → Reply) : Reply :=
  match s.operations.find input.operation with
  | none => .refused (.refused .expired)
  | some row =>
    if viewer = request.id ∧ hash = input.hash ∧ condition = input.condition then receipt row
    else .refused (.refused .conflict)

theorem Settled.commit (settled : Settled s) : Yields commit s () s := by
  simp only [Playback.commit, yields_get_bind, yields_expect_bind, yields_modify, settled.idle,
    settled.keys, List.all_nil, Bool.and_true, true_and]
  rw [← settled.idle]

/-- A transaction that leaves nothing to judge commits as it is. -/
theorem Settled.transacts {α : Type} {action : Tx α} {a : α} (settled : Settled s')
    (ran : Yields action s a s') : Yields (transaction action) s a s' :=
  yields_bind.mpr ⟨a, s', ran, yields_bind.mpr ⟨(), s', settled.commit, yields_pure.mpr ⟨rfl, rfl⟩⟩⟩

theorem missingOperation_pruned (pruned : Pruned id s) (stamped : id.extractTimestamp.isSome = true) :
    (missingOperation id).run s = .error (.refused .expired) := by
  obtain ⟨requested, stamp⟩ := Option.isSome_iff_exists.mp stamped
  have below : requested < s.operationRetention.cutoff := by
    by_contra above
    exact pruned.2 ⟨requested, stamp, not_lt.mp above⟩
  have late : playbackReceiptTimeError id s.tick.clock s.tick.operationRetention.cutoff = 1 := by
    have floor : requested < max s.tick.operationRetention.cutoff
        (Time.truncate s.tick.clock - 5 * minute) :=
      Int.lt_of_lt_of_le below (Int.le_max_left _ _)
    simp [playbackReceiptTimeError, stamp, floor]
  have clock : Yields clockTimestamp s s.tick.clock s.tick := by simp
  rw [missingOperation, run_bind_of_yields clock, run_bind_of_yields (yields_get.mpr ⟨rfl, rfl⟩), late]
  rfl

section
variable {sys : System} {request : Request} {input : Acceptance}

variable {receipt : Operation → Reply} {row : Operation} {s : Store}

theorem repeatAnswer_retained (known : s.operations.find input.operation = some row) :
    repeatAnswer s request input request.id input.hash input.condition receipt = receipt row := by
  simp [repeatAnswer, known]

variable {condition : String} {hash : Hash} {viewer : Uuid}

theorem repeatAnswer_differs (known : s.operations.find input.operation = some row)
    (differs : ¬(viewer = request.id ∧ hash = input.hash ∧ condition = input.condition)) :
    repeatAnswer s request input viewer hash condition receipt = .refused (.refused .conflict) := by
  simp [repeatAnswer, known, differs]

theorem repeatAnswer_pruned (pruned : Pruned input.operation s) :
    repeatAnswer s request input viewer hash condition receipt = .refused (.refused .expired) := by
  simp [repeatAnswer, pruned.1]

/-- What both transactions ask of a receipt that is there. -/
theorem receipt_differs (attributes : row.reservationId = request.id ∧ row.intentHash = input.hash ∧
      row.condition = input.condition)
    (differs : ¬(viewer = request.id ∧ hash = input.hash ∧ condition = input.condition)) :
    (decide (row.reservationId = viewer) && decide (row.intentHash = hash) &&
      decide (row.condition = condition)) = false := by
  rw [attributes.1, attributes.2.1, attributes.2.2, Bool.eq_false_iff]
  intro matched
  simp only [Bool.and_eq_true, decide_eq_true_eq] at matched
  exact differs ⟨matched.1.1.symm, matched.1.2.symm, matched.2.symm⟩

/-- A replay by an authorised actor answers every repeat of an accepted operation. -/
theorem replay_repeats (settled : Settled sys.store) (recorded : Recorded request input sys.store)
    (stamped : input.operation.extractTimestamp.isSome = true) {scope : Scope} {revision : Int}
    (transport : scope.transport ≠ .legacy)
    (household : (sys.store.directory.users.find scope.user).isSome = true) (viewer : Uuid)
    (hash : Hash) (condition : String) :
    (sys.perform (replay scope (.ok revision) viewer input.operation hash condition) .replayed).1 =
      repeatAnswer sys.store request input viewer hash condition fun row =>
        .replayed (some (operationResponse viewer input.operation row true)) := by
  have context : Yields (rootContext scope (.ok revision)) sys.store revision sys.store := by
    simp [rootContext, requireHousehold, transport, household, Except.mapError]
  have read : Yields (get : Tx Store) sys.store sys.store sys.store := yields_get.mpr ⟨rfl, rfl⟩
  unfold System.perform
  rcases recorded with ⟨row, known, attributes⟩ | pruned
  · by_cases same : viewer = request.id ∧ hash = input.hash ∧ condition = input.condition
    · obtain ⟨rfl, rfl, rfl⟩ := same
      have ran : Yields (replay scope (.ok revision) request.id input.operation input.hash
          input.condition) sys.store (some (operationResponse request.id input.operation row true))
          sys.store := by
        refine settled.transacts (yields_bind.mpr ⟨revision, sys.store, context, ?_⟩)
        simp [known, attributes]
      rw [attempt_yields ran, repeatAnswer_retained known]
    · have failed : (replay scope (.ok revision) viewer input.operation hash condition).run sys.store =
          .error (.refused .conflict) := by
        rw [replay, transaction_error (by simp), run_bind_of_yields context, run_bind_of_yields read]
        simp only [known]
        exact run_bind_of_error (expect_fails (receipt_differs attributes same))
      rw [attempt_fails failed, repeatAnswer_differs known same]
  · have failed : (replay scope (.ok revision) viewer input.operation hash condition).run sys.store =
        .error (.refused .expired) := by
      rw [replay, transaction_error (by simp), run_bind_of_yields context, run_bind_of_yields read]
      simp only [pruned.1]
      exact run_bind_of_error (missingOperation_pruned pruned stamped)
    rw [attempt_fails failed, repeatAnswer_pruned pruned]

/-- So does another acceptance, behind the check of its viewer. -/
theorem accept_repeats (settled : Settled sys.store) (recorded : Recorded request input sys.store)
    (stamped : input.operation.extractTimestamp.isSome = true) {instanceId : Uuid} {asked : Request}
    {change : Acceptance} {receipt : Receipt}
    (checked : Yields (checkOn instanceId asked false binding authority) sys.store receipt s')
    (controlled : (sys.store.controls.find asked.id).isSome = true) (again : change.operation = input.operation)
    (keep : OperationResponse × Bool → Table Uuid Work → Table Uuid Work) :
    (sys.attempt (accept digest instanceId asked binding authority target change process)
        (fun reply => .operation reply.1 reply.2) keep).1 =
      repeatAnswer sys.store request input asked.id change.hash change.condition fun row =>
        .operation (operationResponse asked.id input.operation row false) false := by
  obtain ⟨clock, ticks, later, rfl⟩ := (checkOn_yields checked).2.1 rfl
  obtain ⟨control, viewer⟩ := Option.isSome_iff_exists.mp controlled
  have settled' := settled.moved ticks later
  have read : Yields (get : Tx Store) (sys.store.moved clock ticks) (sys.store.moved clock ticks)
      (sys.store.moved clock ticks) := yields_get.mpr ⟨rfl, rfl⟩
  have present' : Yields (present ((sys.store.moved clock ticks).controls.find asked.id) .indeterminate)
      (sys.store.moved clock ticks) control (sys.store.moved clock ticks) :=
    yields_present.mpr ⟨viewer, rfl⟩
  rcases recorded with ⟨row, known, attributes⟩ | pruned
  · have found : (sys.store.moved clock ticks).operations.find change.operation = some row :=
      again ▸ known
    by_cases same : asked.id = request.id ∧ change.hash = input.hash ∧ change.condition = input.condition
    · have ran : Yields (accept digest instanceId asked binding authority target change process)
          sys.store (operationResponse asked.id input.operation row false, false)
          (sys.store.moved clock ticks) := by
        refine settled'.transacts (yields_bind.mpr ⟨receipt, _, checked, ?_⟩)
        simp only [yields_get_bind, yields_present_bind]
        refine ⟨control, viewer, ?_⟩
        simp only [found, replayAccepted, yields_expect_bind, yields_pure]
        simp [attributes, same, again]
      rw [attempt_yields ran, same.1, same.2.1, same.2.2, repeatAnswer_retained known]
    · have failed : (accept digest instanceId asked binding authority target change process).run
          sys.store = .error (.refused .conflict) := by
        rw [accept, activeSql, transaction_error (by simp), run_bind_of_yields checked,
          run_bind_of_yields read, run_bind_of_yields present', run_bind_of_yields read]
        simp only [found]
        exact run_bind_of_error (expect_fails (receipt_differs attributes same))
      rw [attempt_fails failed, repeatAnswer_differs known same]
  · have failed : (accept digest instanceId asked binding authority target change process).run
        sys.store = .error (.refused .expired) := by
      have gone : Pruned change.operation (sys.store.moved clock ticks) := again ▸ pruned
      rw [accept, activeSql, transaction_error (by simp), run_bind_of_yields checked,
        run_bind_of_yields read, run_bind_of_yields present', run_bind_of_yields read]
      simp only [gone.1]
      exact run_bind_of_error (missingOperation_pruned gone (again ▸ stamped))
    rw [attempt_fails failed, repeatAnswer_pruned pruned]

end

/-- An actor the store knows, with a session of the given profile revision. -/
def Authorised (s : Store) (scope : Scope) (session : Except AdmissionError Int) : Prop :=
  scope.transport ≠ .legacy ∧ (s.directory.users.find scope.user).isSome = true ∧
    ∃ revision, session = .ok revision

theorem Operation.checks_stamped {p : Operation} (checks : p.checks id = true) :
    id.extractTimestamp.isSome = true := by
  simp only [Operation.checks, Bool.and_eq_true, decide_eq_true_eq] at checks
  simp [Uuid.extractTimestamp, checks.1.1.1.1]

/-- Under an injective digest a condition and an operation identity are accepted at
most once each along a whole run. Every authorised repeat of an accepted
operation is answered by its receipt while that is retained, with `conflict`
for another change or viewer, and as expired once the receipt is pruned. -/
theorem operation_accepted_and_replayed (digest : ConfigurationResponse → Option String)
    (injective : Injective digest) (now : Time) :
    (∀ moves condition,
      occurrences (next digest) (acceptsUnder digest condition) (.deployed now) moves ≤ 1) ∧
    (∀ moves id, occurrences (next digest) (acceptsOperation digest id) (.deployed now) moves ≤ 1) ∧
    ∀ before move after request input,
      accepted digest (run digest (.deployed now) before) move = some (request, input) →
      let sys := run digest (next digest (run digest (.deployed now) before) move) after
      (∀ elapsed scope session viewer hash condition, Authorised sys.store scope session →
        (step digest sys
            ⟨elapsed, .replay scope session viewer input.operation hash condition⟩).1 =
          repeatAnswer sys.store request input viewer hash condition fun row =>
            .replayed (some (operationResponse viewer input.operation row true))) ∧
      ∀ elapsed instanceId asked binding authority target change process receipt checked,
        Yields (checkOn instanceId asked false binding authority) (sys.arrive elapsed).store receipt
          checked →
        (sys.store.controls.find asked.id).isSome = true → change.operation = input.operation →
        (step digest sys
            ⟨elapsed, .accept instanceId asked binding authority target change process⟩).1 =
          repeatAnswer sys.store request input asked.id change.hash change.condition fun row =>
            .operation (operationResponse asked.id input.operation row false) false := by
  refine ⟨fun moves condition => condition_accepted_once injective condition now moves,
    fun moves id => operation_accepted_once id now moves, ?_⟩
  intro before move after request input taken sys
  have start : Sound (run digest (.deployed now) before) := (sound_deployed now).run before
  have moved : Sound (next digest (run digest (.deployed now) before) move) :=
    (next_advances start move).sound
  obtain ⟨_, _, _, row, change⟩ := accepted_recorded start taken
  have stamped := Operation.checks_stamped (moved.settled.checked.operations _ _ change.stored)
  have recorded : Recorded request input sys.store :=
    (recorded_invariant request input).run moved
      (.inl ⟨row, change.stored, change.owner, change.hash, change.condition⟩) after
  have settled : Settled sys.store := (moved.run after).settled
  refine ⟨?_, ?_⟩
  · rintro elapsed scope _ viewer hash condition ⟨transport, household, revision, rfl⟩
    have arrived : Settled (sys.arrive elapsed).store := ((moved.run after).arrive elapsed).settled
    exact replay_repeats arrived recorded stamped transport household viewer hash condition
  · intro elapsed instanceId asked binding authority target change process receipt checked ran
      controlled again
    have arrived : Settled (sys.arrive elapsed).store := ((moved.run after).arrive elapsed).settled
    exact accept_repeats arrived recorded stamped ran controlled again _

/-- The acceptance of a second output for the playing viewer. -/
def Sample.change : Move :=
  ⟨[], .accept Sample.host Sample.request (some Sample.binding) Sample.authority Sample.second
    Sample.acceptance Sample.process⟩

/-- The change fails and its output is cleaned up. -/
def Sample.failing : List Move := [
  ⟨[], .executeRetiring Sample.operation Sample.authority⟩,
  ⟨[], .clean Sample.request.id Sample.first.id none none⟩,
  ⟨[], .executePreparing Sample.operation Sample.authority⟩,
  ⟨[], .clean Sample.request.id Sample.second.id (some Sample.operation) none⟩,
  ⟨[], .executeFailed Sample.operation Sample.authority⟩]

/-- A day later its receipt is pruned, while the viewer is still there. -/
def Sample.forgetting : List Move :=
  Sample.failing ++ [⟨[90000000000], .prune Sample.host true fun _ => false⟩]

theorem failed_change_replayed :
    accepted Sample.digest (run Sample.digest (.deployed Sample.start) Sample.playing) Sample.change =
      some (Sample.request, Sample.acceptance) ∧
    ∃ row, (step Sample.digest (run Sample.digest (next Sample.digest (run Sample.digest
        (.deployed Sample.start) Sample.playing) Sample.change) Sample.failing)
          ⟨[], .replay Sample.request.actor (.ok 1) Sample.request.id Sample.acceptance.operation
            Sample.acceptance.hash Sample.acceptance.condition⟩).1 =
      .replayed (some (operationResponse Sample.request.id Sample.acceptance.operation row true)) := by
  have injective : Injective Sample.digest := by
    intro a b hex first second
    unfold Sample.digest at first second
    split at first
    · split at second
      · simp_all
      · cases second
    · cases first
  have taken : accepted Sample.digest (run Sample.digest (.deployed Sample.start) Sample.playing)
      Sample.change = some (Sample.request, Sample.acceptance) := by decide +kernel
  have authorised : Authorised (run Sample.digest (next Sample.digest (run Sample.digest
      (.deployed Sample.start) Sample.playing) Sample.change) Sample.failing).store
        Sample.request.actor (.ok 1) := ⟨by decide, by decide +kernel, 1, rfl⟩
  have stored : ((run Sample.digest (next Sample.digest (run Sample.digest (.deployed Sample.start)
      Sample.playing) Sample.change) Sample.failing).store.operations.find
        Sample.acceptance.operation).isSome = true := by decide +kernel
  obtain ⟨row, known⟩ := Option.isSome_iff_exists.mp stored
  refine ⟨taken, row, ?_⟩
  have answered := ((operation_accepted_and_replayed Sample.digest injective Sample.start).2.2
    Sample.playing Sample.change Sample.failing _ _ taken).1 [] _ _ Sample.request.id
      Sample.acceptance.hash Sample.acceptance.condition authorised
  exact answered.trans (repeatAnswer_retained known)

/-- The repeat of a pruned operation gets no receipt. -/
theorem pruned_change_not_replayed :
    accepted Sample.digest (run Sample.digest (.deployed Sample.start) Sample.playing) Sample.change =
      some (Sample.request, Sample.acceptance) ∧
    ((run Sample.digest (.deployed Sample.start)
      (Sample.playing ++ Sample.change :: Sample.forgetting)).store.reservations.find
        Sample.request.id).isSome = true ∧
    (step Sample.digest (run Sample.digest (.deployed Sample.start)
        (Sample.playing ++ Sample.change :: Sample.forgetting))
      ⟨[], .replay Sample.request.actor (.ok 1) Sample.request.id Sample.acceptance.operation
        Sample.acceptance.hash Sample.acceptance.condition⟩).1 = .refused (.refused .expired) := by
  decide +kernel

end Duskcue.Playback
