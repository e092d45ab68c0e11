import Duskcue.EncoderCapacity
import Duskcue.OperationReplay
import Duskcue.PruneEligibility

/-! A maintenance pass against the delete guards. A pass selects its rows at one reading of
the clock and the guards judge them at later ones, to the microsecond for outputs,
operations and intents and to the millisecond for reservations. Deleting only
shrinks the tables, so a selected row is the row the pass began with; what a
guard can still object to is a prune time inside the very millisecond it reads. -/
namespace Duskcue.Playback
open Transaction

variable {id viewer : Uuid} {s : Store} {now : Time}

/-! ## Refusals -/

/-- The errors of the delete guards, and of the guard of the control that the deletion of an
operation updates. -/
def Failure.deleteRefused : Failure → Bool
  | .database .PBR04 message => ["playback receipt deletion refused", "playback intent deletion refused",
      "VOD output deletion refused", "VOD operation deletion refused",
      "VOD operation replay fence unavailable", "VOD operation receipts remain",
      "VOD control regression refused", "VOD output attribution conflicts", "VOD encoding obligation remains",
      "VOD current output is unavailable", "VOD output cannot revive", "VOD replacement checkpoint invalid",
      "VOD checkpoint is stale", "VOD encoding policy unavailable"].contains message
  | .database .PBR03 message => message = "VOD encoded viewer capacity unavailable"
  | _ => false

def Reply.deleteRefused : Reply → Bool
  | .refused failure => failure.deleteRefused
  | _ => false

/-- No delete guard refuses `tx` from `s`, and where it succeeds the condition holds. -/
abbrev Unrefused {α : Type} (tx : Tx α) (s : Store) (post : α → Store → Prop) : Prop :=
  Spares (fun failure => failure.deleteRefused = true) tx s post

section
variable {α β : Type} {s : Store} {condition : Bool} {post : α → Store → Prop}

theorem Unrefused.require {post : Unit → Store → Prop}
    (met : condition = true) (holds : post () s) : Unrefused (require condition code message) s post :=
  .ensure (.inl met) fun _ => holds

theorem Unrefused.clock_bind {next : Time → Tx α} (rest : Unrefused (next s.tick.clock) s.tick post) :
    Unrefused (clockTimestamp >>= next) s post := by
  have reads : Unrefused clockTimestamp s fun now t => now = s.tick.clock ∧ t = s.tick :=
    .bind (.modify rfl) fun _ t (same : t = s.tick) => .get_bind (.pure (by rw [same]; exact ⟨rfl, rfl⟩))
  refine .bind reads fun now t read => ?_
  obtain ⟨rfl, rfl⟩ := read
  exact rest

end

/-- A transaction that never ends with a refusal of a delete guard. -/
abbrev Harmless {α : Type} (tx : Tx α) : Prop := Raises (fun failure => ¬ failure.deleteRefused = true) tx

theorem harmless_require (harmless : (Failure.database code message).deleteRefused = false) :
    Harmless (require condition code message) :=
  .ensure (by simp [harmless])

theorem harmless_updateRetention {depth : Nat} : Harmless (updateRetention depth assign) :=
  .bind .get fun _ => .bind (.bind (harmless_require (by decide)) fun _ => harmless_require (by decide))
    fun _ => .bind (harmless_require (by decide)) fun _ => .modify

theorem harmless_updateHousehold : Harmless (updateHousehold household old new) :=
  .bind (harmless_require (by decide)) fun _ => .bind (harmless_require (by decide)) fun _ => .modify

theorem harmless_playbackReceiptAccountDelete : Harmless (playbackReceiptAccountDelete table id household) := by
  refine .bind .get fun s => .ite .pure (.bind (harmless_require (by decide)) fun _ =>
    .bind harmless_updateRetention fun _ => ?_)
  cases s.households.find household with
  | none => exact .throw (by decide)
  | some =>
    refine .bind (harmless_require (by decide)) fun _ => .bind harmless_updateHousehold fun _ =>
      .ite ?_ .pure
    exact .bind (harmless_require (by decide)) fun _ => .bind .modify fun _ => .bind .get fun _ =>
      harmless_require (by decide)

/-! ## The control that is counted down -/

/-- `playback_vod_control_guard` has nothing against the control. -/
structure Writable (s : Store) (viewer : Uuid) (v : Control) : Prop where
  current : ∀ output, v.currentOutput = some output → ∃ o, s.outputs.find output = some o ∧ o.reservationId = viewer
  owed : v.claimEncodes = false → s.owesEncoder viewer = false
  encoded : v.claimEncodes = false → v.state ≠ .retiring → ∀ output o,
    v.currentOutput = some output → s.outputs.find output = some o → o.encodes = false
  ready : v.state = .ready → v.pendingOperation = none ∧ ∃ output o,
    v.currentOutput = some output ∧ s.outputs.find output = some o ∧ o.state = .ready ∧
      o.publishedAt.isSome = true ∧ o.resourcesCompleted = false

/-- A control of a consistent store whose current output is still served, if it is ready. -/
theorem Consistent.writable (consistent : Consistent s) (found : s.controls.find viewer = some v)
    (owed : v.claimEncodes = false → s.owesEncoder viewer = false)
    (serving : v.state = .ready → ∀ output o, v.currentOutput = some output → s.outputs.find output = some o →
      o.resourcesCompleted = false) : Writable s viewer v where
  current output := consistent.served.current viewer v output found
  owed := owed
  encoded := consistent.served.encoded viewer v found
  ready at_ := by
    obtain ⟨output, o, current, known, published, state⟩ := consistent.served.ready viewer v found at_
    have running := serving at_ output o current known
    refine ⟨?_, output, o, current, known, state.resolve_right fun complete => ?_, published, running⟩
    · by_contra pending
      have changing := consistent.pending.changing viewer v found (Option.isSome_iff_ne_none.mpr pending)
      cases at_.symm.trans changing
    · have completed := (OutputRow.complete_iff (consistent.checked.outputs output o known)).mp complete
      cases running.symm.trans completed

/-- Fewer outputs leave a control writable that points at none of those that went. -/
theorem Writable.moved (writable : Writable s viewer v)
    (fewer : ∀ output o, t.outputs.find output = some o → s.outputs.find output = some o)
    (kept : ∀ output o, v.currentOutput = some output → s.outputs.find output = some o →
      t.outputs.find output = some o) : Writable t viewer v where
  current output pointed := by
    obtain ⟨o, found, own⟩ := writable.current output pointed
    exact ⟨o, kept output o pointed found, own⟩
  owed free := Table.holds_eq_false.mpr fun output o found =>
    Table.holds_eq_false.mp (writable.owed free) output o (fewer output o found)
  encoded free running output o pointed found := writable.encoded free running output o pointed (fewer output o found)
  ready at_ := by
    obtain ⟨idle, output, o, pointed, found, serves⟩ := writable.ready at_
    exact ⟨idle, output, o, pointed, kept output o pointed found, serves⟩

theorem Writable.same (writable : Writable s viewer v) (outputs : t.outputs = s.outputs) : Writable t viewer v :=
  writable.moved (fun _ _ found => outputs ▸ found) fun _ _ _ found => outputs ▸ found

/-- An update that keeps the current output and its checkpoint, or drops both. -/
structure Lighter (depth : Nat) (old new : Control) : Prop where
  advances : old.regresses depth new = false
  claims : new.claimEncodes = old.claimEncodes
  current : (new.currentOutput = old.currentOutput ∧ old.SameCheckpoint new) ∨
    (new.currentOutput ≠ old.currentOutput ∧ new.currentOutput = none ∧ new.checkpointSequence = 0)

/-- A reading of the clock by a transaction that starts in `s`. -/
def Store.Reads (s : Store) (time : Time) : Prop :=
  ∃ n, time = s.clock + ((s.ticks.take (n + 1)).sum : Nat)

/-- What a pass leaves of a control: what is pending, what it claims, and its current output or
none. -/
structure Control.Carried (old new : Control) : Prop where
  pending : new.pendingOperation = old.pendingOperation
  state : new.state = old.state
  claims : new.claimEncodes = old.claimEncodes
  current : ∀ output, new.currentOutput = some output → old.currentOutput = some output

/-- Where a pass can stand that starts in `s`: the clock has moved by some of its
readings, rows are the rows they were, and the cutoffs have not fallen. -/
structure Passing (s s' : Store) : Prop where
  readings : ∃ n, s'.clock = s.clock + ((s.ticks.take n).sum : Nat) ∧ s'.ticks = s.ticks.drop n
  reservations : ∀ id r, s'.reservations.find id = some r → s.reservations.find id = some r
  intents : ∀ id i, s'.intents.find id = some i → s.intents.find id = some i
  operations : ∀ id p, s'.operations.find id = some p → s.operations.find id = some p
  outputs : ∀ id o, s'.outputs.find id = some o → s.outputs.find id = some o
  controls : ∀ viewer v, s'.controls.find viewer = some v → ∃ w, s.controls.find viewer = some w ∧ w.Carried v
  cutoff : s.retention.cutoff ≤ s'.retention.cutoff
  operationCutoff : s.operationRetention.cutoff ≤ s'.operationRetention.cutoff

section
variable {s s' s'' : Store}

theorem Control.Carried.refl (v : Control) : v.Carried v := ⟨rfl, rfl, rfl, fun _ => id⟩

theorem Passing.refl (s : Store) : Passing s s :=
  ⟨⟨0, by simp⟩, fun _ _ found => found, fun _ _ found => found, fun _ _ found => found,
    fun _ _ found => found, fun _ v found => ⟨v, found, .refl v⟩, le_rfl, le_rfl⟩

theorem Passing.trans (first : Passing s s') (rest : Passing s' s'') : Passing s s'' where
  readings := by
    obtain ⟨n, clock, ticks⟩ := first.readings
    obtain ⟨m, clock', ticks'⟩ := rest.readings
    refine ⟨n + m, ?_, by rw [ticks', ticks, List.drop_drop]⟩
    rw [clock', clock, ticks, List.take_add, List.sum_append]
    push_cast
    exact Int.add_assoc _ _ _
  reservations := fun id r found => first.reservations id r (rest.reservations id r found)
  intents := fun id i found => first.intents id i (rest.intents id i found)
  operations := fun id p found => first.operations id p (rest.operations id p found)
  outputs := fun id o found => first.outputs id o (rest.outputs id o found)
  controls := by
    intro viewer v found
    obtain ⟨w, known, later⟩ := rest.controls viewer v found
    obtain ⟨x, before, earlier⟩ := first.controls viewer w known
    exact ⟨x, before, later.pending.trans earlier.pending, later.state.trans earlier.state,
      later.claims.trans earlier.claims, fun output pointed => earlier.current output (later.current output pointed)⟩
  cutoff := first.cutoff.trans rest.cutoff
  operationCutoff := first.operationCutoff.trans rest.operationCutoff

theorem Passing.clock (passing : Passing s s') : s.clock ≤ s'.clock := by
  obtain ⟨n, clock, -⟩ := passing.readings
  rw [clock]
  exact Int.le_add_of_nonneg_right (Int.natCast_nonneg _)

theorem Passing.reads (passing : Passing s s') : s.Reads s'.tick.clock := by
  obtain ⟨n, clock, ticks⟩ := passing.readings
  refine ⟨n, ?_⟩
  have next : (s.ticks.take (n + 1)).sum = (s.ticks.take n).sum + (s.ticks.drop n).headD 0 := by
    rw [List.take_add, List.sum_append]
    cases s.ticks.drop n <;> simp
  rw [next]
  simp only [Store.tick, clock, ticks]
  push_cast
  exact Int.add_assoc _ _ _

theorem Store.Reads.first {reading : Time} (reads : s.Reads reading) : s.tick.clock ≤ reading := by
  obtain ⟨n, rfl⟩ := reads
  refine Int.add_le_add_left (Int.ofNat_le.mpr ?_) _
  cases s.ticks with
  | nil | cons => simp

theorem Passing.tick (s : Store) : Passing s s.tick where
  readings := by
    refine ⟨1, ?_, ?_⟩ <;> cases held : s.ticks <;> simp [Store.tick, held]
  reservations := fun _ _ found => found
  intents := fun _ _ found => found
  operations := fun _ _ found => found
  outputs := fun _ _ found => found
  controls := fun _ v found => ⟨v, found, .refl v⟩
  cutoff := le_rfl
  operationCutoff := le_rfl

theorem Passing.retain {row : OperationRetention} (later : s.operationRetention.cutoff ≤ row.cutoff) :
    Passing s { s with operationRetention := row } :=
  { Passing.refl s with operationCutoff := later }

theorem Passing.raise {row : Retention} (later : s.retention.cutoff ≤ row.cutoff) :
    Passing s { s with retention := row } :=
  { Passing.refl s with cutoff := later }

/-- Counting a receipt out leaves the rows and the cutoff. -/
theorem Passing.counted (passing : Passing s s') (household : Uuid) : Passing s (s'.countOut household) :=
  { passing with }

end

/-! ## Due rows -/

theorem le_pruneTime (id : Uuid) (completed : Time) : completed + 24 * hour ≤ pruneTime id completed := by
  unfold pruneTime
  split
  · exact le_rfl
  · exact le_max_left _ _

/-- A row stamped a day before a reading is below a cutoff five minutes behind a reading
close to it. -/
theorem expired_of_due (recent : Recent stamped id)
    (due : stamped + 24 * hour ≤ reading) (near : reading ≤ floor + 3 * second)
    (raised : floor.truncate - 5 * minute ≤ cutoff) :
    ¬ id.extractTimestamp.any (· ≥ cutoff) = true := by
  intro held
  obtain ⟨requested, carried, above⟩ := Option.any_eq_true _ _ |>.mp held
  have ahead := recent requested carried
  have above : cutoff ≤ requested := of_decide_eq_true above
  have apart : ∀ a b c d e : Int, a ≤ b + 2 * 60000000 → b + 24 * 3600000000 ≤ c →
      c ≤ d + 3 * 1000000 → d - d % 1000 - 5 * 60000000 ≤ e → a < e := by omega
  exact absurd above (not_le.mpr (apart requested stamped reading floor cutoff ahead due near raised))

section
variable {s : Store}

/-- What the deletion of outputs leaves. -/
structure Discarded (s s' : Store) (ids : List Uuid) : Prop where
  passing : Passing s s'
  operations : s'.operations = s.operations
  controls : s'.controls = s.controls
  operationRetention : s'.operationRetention = s.operationRetention
  outputs : ∀ output o, s'.outputs.find output = some o ↔ s.outputs.find output = some o ∧ output ∉ ids

/-- Completed outputs of a due operation that no control points at. -/
structure OutputsDue (s : Store) (operation : Uuid) (p : Operation) (ids : List Uuid) : Prop where
  known : s.operations.find operation = some p
  due : ∃ time, p.pruneAfter = some time ∧ time ≤ s.clock
  rows : ∀ output ∈ ids, ∀ o, s.outputs.find output = some o →
    o.operationId = some operation ∧ o.resourcesCompleted = true
  unpointed : ∀ viewer v, s.controls.find viewer = some v → v.pendingOperation ≠ some operation ∧
    ∀ output ∈ ids, v.currentOutput ≠ some output

/-- Later deletions leave what the rest of them needs. -/
theorem OutputsDue.discarded (due : OutputsDue s operation p (id :: ids)) (discarded : Discarded s s' [id]) :
    OutputsDue s' operation p ids where
  known := by rw [discarded.operations, due.known]
  due := by
    obtain ⟨time, prunes, past⟩ := due.due
    exact ⟨time, prunes, past.trans discarded.passing.clock⟩
  rows := fun output member o found => due.rows output (by simp [member]) o ((discarded.outputs output o).mp found).1
  unpointed := by
    rw [discarded.controls]
    intro viewer v held
    obtain ⟨idle, elsewhere⟩ := due.unpointed viewer v held
    exact ⟨idle, fun output member => elsewhere output (by simp [member])⟩

end

/-! ## The operation prune -/

section
variable {s : Store}

theorem Prunable.steps (prunable : Prunable s) (steps : Steps s s') : Prunable s' := by
  induction steps with
  | refl => exact prunable
  | tail _ last ih => exact ih.step last

/-- Where the control of a due operation's viewer is ready, the output it points at is still
served, unless it is the operation's own. -/
def Serves (s : Store) (now : Time) : Prop :=
  ∀ id p time, s.operations.find id = some p → p.pruneAfter = some time → time ≤ now →
    ∀ v, s.controls.find p.reservationId = some v → v.state = .ready → ∀ output o,
      v.currentOutput = some output → output ≠ p.candidateOutput → s.outputs.find output = some o →
        o.resourcesCompleted = false

end

/-! ## Receipts -/

section
variable {s : Store}

theorem deleteReservation_unrefused (due : ∀ r, s.reservations.find id = some r → r.state = .released ∧ ∃ time,
      r.releasedAt = some time ∧ r.pruneAfter = some (pruneTime id time) ∧ pruneTime id time ≤ s.tick.clock.truncate)
    (free : ∀ operation p, s.operations.find operation = some p → p.reservationId ≠ id)
    (below : ¬ id.extractTimestamp.any (· ≥ s.retention.cutoff) = true) :
    Unrefused (deleteReservation id) s fun _ s' => Passing s s' := by
  refine .get_bind ?_
  cases found : s.reservations.find id with
  | none => exact .pure (.refl s)
  | some old =>
    obtain ⟨released, time, at_, prunes, past⟩ := due old found
    have free : s.tick.operations.holds (fun _ p => p.reservationId = id) = false :=
      Table.holds_eq_false.mpr fun operation p known => by simp [free operation p known]
    have guarded : Unrefused (playbackReceiptDelete id old) s fun _ t => t = s.tick := by
      refine Unrefused.clock_bind (.get_bind (Unrefused.require ?_ rfl))
      have day := (le_pruneTime id time).trans past
      exact decide_eq_true ⟨released, by simp [at_, day], by simp [prunes, past], below⟩
    refine .bind guarded fun _ t same => ?_
    subst same
    have parent : Unrefused (playbackVodParentRetentionGuard id) s.tick fun _ t => t = s.tick :=
      .get_bind (Unrefused.require (by simp [free]) rfl)
    refine .bind parent fun _ t same => .bind (.modify rfl) fun _ u (wrote : u = _) => ?_
    subst same wrote
    refine (Spares.of_raises harmless_playbackReceiptAccountDelete).mono fun _ s' accounted => ?_
    have rows : Passing s { s.tick with
        reservations := s.reservations.remove id, commands := s.commands.remove id
        controls := s.controls.remove id, outputs := s.outputs.discard fun _ o => o.reservationId = id } :=
      { Passing.tick s with
        reservations := fun _ _ kept => Table.find_of_remove kept
        outputs := fun _ _ kept => (Table.find_discard.mp kept).1
        controls := fun _ v kept => ⟨v, Table.find_of_remove kept, .refl v⟩ }
    by_cases known : (s.tick.intents.find id).isSome = true
    · rw [playbackReceiptAccountDelete_skips accounted known]
      exact rows
    · obtain ⟨-, -, rfl⟩ := playbackReceiptAccountDelete_yields accounted fun both => known both.2
      exact rows.counted old.householdId

end

/-! ## The pass -/

/-- What a pass that starts in `s` needs to be spared by the guards: it is over within the
three seconds a transaction has, no reading falls into the millisecond of a started
viewer's prune time at or after that time, and no ready control of a due operation's viewer
points at another output that is cleaned. -/
structure PassClear (s : Store) : Prop where
  brief : ∀ reading, s.Reads reading → reading ≤ s.tick.clock + 3 * second
  whole : ∀ id r time, s.reservations.find id = some r → (s.intents.find id).isSome = true →
    r.pruneAfter = some time → ∀ reading, s.Reads reading → time ≤ reading → time ≤ reading.truncate
  serves : Serves s s.tick.clock

/-- A state of a pass after the cutoff is raised. -/
structure Midway (s t : Store) : Prop where
  passing : Passing s t
  raised : s.tick.clock.truncate - 5 * minute ≤ t.retention.cutoff

section
variable {s t u : Store}

section
variable (midway : Midway s t)
include midway

theorem Midway.on (passing : Passing t u) : Midway s u :=
  ⟨midway.passing.trans passing, midway.raised.trans passing.cutoff⟩

/-- An identity stamped a day before the next reading is below the cutoff. -/
theorem Midway.below (clear : PassClear s)
    (recent : Recent time id) (due : pruneTime id time ≤ t.tick.clock) :
    ¬ id.extractTimestamp.any (· ≥ t.retention.cutoff) = true :=
  expired_of_due recent ((le_pruneTime id time).trans due) (clear.brief _ midway.passing.reads) midway.raised

/-- The deletion of a released reservation whose prune time is past at the next reading, to
the millisecond. -/
theorem Midway.deleteReservation (clear : PassClear s) (prunable : Prunable s)
    (released : ∀ r, t.reservations.find id = some r → r.state = .released)
    (due : ∀ r time, t.reservations.find id = some r → r.pruneAfter = some time → time ≤ t.tick.clock.truncate)
    (free : ∀ operation p, t.operations.find operation = some p → p.reservationId ≠ id) :
    Unrefused (Playback.deleteReservation id) t fun _ t' => Passing t t' := by
  cases found : t.reservations.find id with
  | none =>
    refine .get_bind ?_
    rw [found]
    exact .pure (.refl t)
  | some r =>
    have before := midway.passing.reservations id r found
    obtain ⟨time, at_, prunes, recent⟩ := prunable.timed.reservations id r before (released r found)
    have past := due r _ found prunes
    refine deleteReservation_unrefused (fun q known => ?_) free
      (midway.below clear recent (past.trans (truncate_le _)))
    cases found.symm.trans known
    exact ⟨released r found, time, at_, prunes, past⟩

end

end

/-- A viewer that is released half a millisecond into a millisecond. -/
def Sample.released : System :=
  run Sample.digest (.deployed Sample.start) (Sample.playing ++ [⟨[500], .retire Sample.host Sample.request true⟩])

namespace Sample

/-- Every configuration has a tag. -/
def tags (value : ConfigurationResponse) : Option String := if value = published then some "2" else some "3"

def secondChange : Uuid := Uuid.v7 1000000001 14

def third : Output :=
  { second with id := Uuid.v7 1000000000 13, operation := some secondChange, generation := some 79 }

/-- A change fails and a second one succeeds; a day later the new output is cleaned up. -/
def changed : System := run tags (.deployed start) (playing ++ change :: failing ++ [
  ⟨[], .accept host request (some binding) authority third
    { acceptance with operation := secondChange, condition := "\"vod-config-3\"" } process⟩,
  ⟨[], .executeRetiring secondChange authority⟩,
  ⟨[], .executePreparing secondChange authority⟩,
  ⟨[], .publish host request (some binding) authority third evidence⟩,
  ⟨[86400000000], .clean request.id third.id none none⟩])

end Sample

/-- Before the control is retired, a pass is refused that counts the first change out. -/
theorem prune_refused_over_cleaned_output : Reachable Sample.tags Sample.changed ∧
    (step Sample.tags Sample.changed ⟨[500000], .prune Sample.host true fun _ => false⟩).1 =
      .refused (.database .PBR04 "VOD current output is unavailable") :=
  ⟨⟨Sample.start, _, rfl⟩, by decide +kernel⟩

end Duskcue.Playback
