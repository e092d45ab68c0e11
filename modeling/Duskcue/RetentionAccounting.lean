import Duskcue.SystemSteps

/-! The retained counts. An identity is counted once, whether it has an intent, a
reservation or both: the first of its rows counts it in and the last counts it
out. Operations are counted in total and for each viewer. -/
namespace Duskcue.Playback
open Transaction

/-! ## Identities -/

/-- The identities with a row in either receipt table, of the households `p` selects. -/
def Store.receiptIds (s : Store) (p : Uuid → Bool) : Finset Uuid :=
  s.reservations.keys (fun _ r => p r.householdId) ∪ s.intents.keys fun _ i => p i.householdId

/-- The operations of a viewer. -/
def Store.operationsOf (s : Store) (viewer : Uuid) : Nat :=
  s.operations.count fun _ p => p.reservationId = viewer

section
variable {s s' : Store} {p : Uuid → Bool} {id : Uuid}

theorem mem_receiptIds : id ∈ s.receiptIds p ↔
    (∃ r, s.reservations.find id = some r ∧ p r.householdId = true) ∨
      ∃ i, s.intents.find id = some i ∧ p i.householdId = true := by
  rw [Store.receiptIds, Finset.mem_union, Table.mem_keys, Table.mem_keys]

theorem not_mem_receiptIds (unreserved : s.reservations.find id = none)
    (unknown : s.intents.find id = none) : id ∉ s.receiptIds p := by
  rw [mem_receiptIds]
  simp [unreserved, unknown]

/-- The rows of every other identity are as they were. -/
def ReceiptsOutside (s s' : Store) (id : Uuid) : Prop :=
  ∀ other, other ≠ id → s'.reservations.find other = s.reservations.find other ∧
    s'.intents.find other = s.intents.find other

theorem ReceiptsOutside.mem (outside : ReceiptsOutside s s' id) (ne : other ≠ id) :
    other ∈ s'.receiptIds p ↔ other ∈ s.receiptIds p := by
  obtain ⟨reservations, intents⟩ := outside other ne
  rw [mem_receiptIds, mem_receiptIds, reservations, intents]

/-- Rows that keep the identity's household keep the set. -/
theorem receiptIds_kept (outside : ReceiptsOutside s s' id)
    (same : id ∈ s'.receiptIds p ↔ id ∈ s.receiptIds p) : s'.receiptIds p = s.receiptIds p := by
  ext other
  by_cases ne : other = id
  · subst ne
    exact same
  · exact outside.mem ne

/-- The first row of an identity counts it in for its household. -/
theorem card_counted_in (outside : ReceiptsOutside s s' id) (absent : id ∉ s.receiptIds p)
    (counted : id ∈ s'.receiptIds p ↔ p household = true) :
    (s'.receiptIds p).card = (s.receiptIds p).card + (p household).toNat := by
  cases chosen : p household with
  | false =>
    rw [receiptIds_kept outside (by simp [counted, chosen, absent])]
    rfl
  | true =>
    have grown : s'.receiptIds p = insert id (s.receiptIds p) := by
      ext other
      rw [Finset.mem_insert]
      by_cases ne : other = id
      · subst ne
        simp [counted, chosen]
      · simp [outside.mem ne, ne]
    rw [grown, Finset.card_insert_of_notMem absent]
    rfl

/-- The identity has rows, and they are of the household. -/
structure Attributed (s : Store) (id household : Uuid) : Prop where
  present : (s.reservations.find id).isSome = true ∨ (s.intents.find id).isSome = true
  reservation : ∀ r, s.reservations.find id = some r → r.householdId = household
  intent : ∀ i, s.intents.find id = some i → i.householdId = household

theorem Attributed.mem (attributed : Attributed s id household)
    (p : Uuid → Bool) : id ∈ s.receiptIds p ↔ p household = true := by
  rw [mem_receiptIds]
  constructor
  · rintro (⟨r, reserved, chosen⟩ | ⟨i, intended, chosen⟩)
    · exact attributed.reservation r reserved ▸ chosen
    · exact attributed.intent i intended ▸ chosen
  · intro chosen
    rcases attributed.present with there | there
    · obtain ⟨r, reserved⟩ := Option.isSome_iff_exists.mp there
      exact .inl ⟨r, reserved, attributed.reservation r reserved ▸ chosen⟩
    · obtain ⟨i, intended⟩ := Option.isSome_iff_exists.mp there
      exact .inr ⟨i, intended, attributed.intent i intended ▸ chosen⟩

theorem ReceiptsOutside.symm (outside : ReceiptsOutside s s' id) : ReceiptsOutside s' s id :=
  fun other ne => ⟨(outside other ne).1.symm, (outside other ne).2.symm⟩

end

/-! ## Households -/

theorem counted_eq {s : Store} (found : s.households.find household = some n) : s.counted household = n := by
  simp [Store.counted, found]

theorem counted_countIn (s : Store) (own household : Uuid) :
    (s.countIn own).counted household = s.counted household + (decide (own = household)).toNat := by
  unfold Store.counted Store.countIn
  rw [Table.find_put]
  by_cases same : household = own
  · subst same
    simp [Store.counted]
  · simp [same, Ne.symm same]

theorem counted_countOut (s : Store) (own household : Uuid) :
    (s.countOut own).counted household + (decide (own = household)).toNat = s.counted household := by
  by_cases last : s.counted own - 1 = 0
  · have rows : (s.countOut own).households = s.households.remove own := if_pos last
    rw [Store.counted, rows, Table.find_remove]
    by_cases same : household = own
    · subst same
      simp only [if_true, Option.getD_none, decide_true, Bool.toNat_true]
      omega
    · simp [same, Ne.symm same, Store.counted]
  · have rows : (s.countOut own).households = s.households.put own (s.counted own - 1) := if_neg last
    rw [Store.counted, rows, Table.find_put]
    by_cases same : household = own
    · subst same
      simp
    · simp [same, Ne.symm same, Store.counted]

/-- The receipt counters are the sizes of the sets they count. -/
structure ReceiptsCounted (s : Store) : Prop where
  matched : ∀ id r i, s.reservations.find id = some r → s.intents.find id = some i →
    i.householdId = r.householdId
  total : s.retention.retainedCount = (s.receiptIds fun _ => true).card
  households : ∀ household, s.counted household = (s.receiptIds (· = household)).card
  range : ∀ household n, s.households.find household = some n → 0 < n ∧ n ≤ 4096
  room : s.retention.retainedCount ≤ 65536

section
variable {s s' : Store} {id : Uuid}

theorem ReceiptsCounted.reserved (counted : ReceiptsCounted s)
    (found : s.reservations.find id = some r) : Attributed s id r.householdId where
  present := .inl (by simp [found])
  reservation := fun q known => by rw [Option.some.inj (known.symm.trans found)]
  intent := fun i known => counted.matched id r i found known

theorem ReceiptsCounted.intended (counted : ReceiptsCounted s)
    (found : s.intents.find id = some i) : Attributed s id i.householdId where
  present := .inr (by simp [found])
  reservation := fun r known => (counted.matched id r i known found).symm
  intent := fun j known => by rw [Option.some.inj (known.symm.trans found)]

theorem ReceiptsOutside.matched (outside : ReceiptsOutside s s' id) (counted : ReceiptsCounted s)
    (own : ∀ r i, s'.reservations.find id = some r → s'.intents.find id = some i →
      i.householdId = r.householdId) (other : Uuid) (r : Reservation) (i : StartIntent)
    (reserved : s'.reservations.find other = some r) (intended : s'.intents.find other = some i) :
    i.householdId = r.householdId := by
  by_cases ne : other = id
  · subst ne
    exact own r i reserved intended
  · obtain ⟨reservations, intents⟩ := outside other ne
    exact counted.matched other r i (reservations ▸ reserved) (intents ▸ intended)

/-- A write that leaves the identity with its household. -/
theorem ReceiptsCounted.kept (counted : ReceiptsCounted s)
    (outside : ReceiptsOutside s s' id) (before : Attributed s id household) (after : Attributed s' id household)
    (total : s'.retention.retainedCount = s.retention.retainedCount)
    (households : s'.households = s.households) : ReceiptsCounted s' := by
  have same : ∀ p, s'.receiptIds p = s.receiptIds p :=
    fun p => receiptIds_kept outside ((after.mem p).trans (before.mem p).symm)
  refine ⟨outside.matched counted ?_, ?_, ?_, households ▸ counted.range, total ▸ counted.room⟩
  · exact fun r i reserved intended => (after.intent i intended).trans (after.reservation r reserved).symm
  · rw [total, counted.total, same]
  · intro other
    rw [same, ← counted.households]
    simp only [Store.counted, households]

/-- The first row of an identity, for a household with room. -/
theorem ReceiptsCounted.received (counted : ReceiptsCounted s) (household : Uuid)
    (outside : ReceiptsOutside s s' id) (unreserved : s.reservations.find id = none)
    (unknown : s.intents.find id = none) (after : Attributed s' id household)
    (room : s.retention.retainedCount < 65536 ∧ s.counted household < 4096)
    (retention : s'.retention = ((s.withCutoff cutoff).countIn household).retention)
    (households : s'.households = ((s.withCutoff cutoff).countIn household).households) :
    ReceiptsCounted s' where
  matched := outside.matched counted fun r i reserved intended =>
    (after.intent i intended).trans (after.reservation r reserved).symm
  total := by
    rw [card_counted_in outside (not_mem_receiptIds unreserved unknown) (after.mem _), retention]
    have before := counted.total
    simp [Store.countIn, Store.withCutoff, before]
  households := by
    intro other
    rw [card_counted_in outside (not_mem_receiptIds unreserved unknown) (after.mem _)]
    have same : s'.counted other = ((s.withCutoff cutoff).countIn household).counted other := by
      simp only [Store.counted, households]
    have before : (s.withCutoff cutoff).counted other = (s.receiptIds (· = other)).card :=
      counted.households other
    rw [same, counted_countIn, before]
    simp
  range := by
    intro other n found
    rw [households, Store.countIn, Table.find_put] at found
    split at found
    · have nonneg := counted.households household
      obtain rfl : s.counted household + 1 = n := Option.some.inj found
      omega
    · exact counted.range other n found
  room := by
    rw [retention]
    simp only [Store.countIn, Store.withCutoff]
    omega

/-- The last row of an identity. -/
theorem ReceiptsCounted.dropped (counted : ReceiptsCounted s) (household : Uuid)
    (outside : ReceiptsOutside s s' id) (unreserved : s'.reservations.find id = none)
    (unknown : s'.intents.find id = none) (attributed : Attributed s id household)
    (kept : 0 < s.counted household)
    (retention : s'.retention = (s.countOut household).retention)
    (households : s'.households = (s.countOut household).households) : ReceiptsCounted s' where
  matched := outside.matched counted fun r i reserved _ => by cases unreserved.symm.trans reserved
  total := by
    have before := counted.total
    rw [card_counted_in outside.symm (not_mem_receiptIds unreserved unknown) (attributed.mem _)] at before
    rw [retention]
    simp only [Store.countOut, before, Bool.toNat_true]
    omega
  households := by
    intro other
    have before := counted.households other
    rw [card_counted_in outside.symm (not_mem_receiptIds unreserved unknown) (attributed.mem _),
      ← counted_countOut s household other] at before
    have same : s'.counted other = (s.countOut household).counted other := by
      simp only [Store.counted, households]
    rw [same]
    push_cast at before
    omega
  range := by
    intro other n found
    rw [households, Store.countOut] at found
    have bound : s.counted household ≤ 4096 := by
      cases row : s.households.find household with
      | none => simp [Store.counted, row]
      | some m => exact counted_eq row ▸ (counted.range household m row).2
    simp only at found
    split at found
    · rw [Table.find_remove] at found
      split at found
      · cases found
      · exact counted.range other n found
    · rw [Table.find_put] at found
      split at found
      · cases found
        omega
      · exact counted.range other n found
  room := by
    rw [retention]
    have room := counted.room
    simp only [Store.countOut]
    omega

theorem StartIntent.SameAttribution.household {old new : StartIntent} (same : old.SameAttribution new) :
    new.householdId = old.householdId := by
  unfold StartIntent.SameAttribution at same
  rw [same]

theorem Reservation.SameAttribution.household {old new : Reservation} (same : old.SameAttribution new) :
    new.householdId = old.householdId := by
  unfold Reservation.SameAttribution at same
  rw [same]

theorem ReceiptsCounted.step (counted : ReceiptsCounted s) (step : Step s s') : ReceiptsCounted s' := by
  cases step with
  | @reserve _ row _ _ admission unknown _ _ room =>
    refine counted.received row.householdId (fun other ne => ⟨Table.find_put_ne ne, rfl⟩)
      admission.absent unknown ⟨.inl ?_, fun r found => ?_, fun i found => ?_⟩ room rfl rfl
    · simp
    · cases (Table.find_put_self ..).symm.trans found
      rfl
    · cases unknown.symm.trans found
  | @intend _ row _ absent unadmitted _ _ room =>
    refine counted.received row.householdId (fun other ne => ⟨rfl, Table.find_put_ne ne⟩)
      unadmitted absent ⟨.inr ?_, fun r found => ?_, fun i found => ?_⟩ room rfl rfl
    · simp
    · cases unadmitted.symm.trans found
    · cases (Table.find_put_self ..).symm.trans found
      rfl
  | @promote _ _ _ _ _ _ found _ _ _ _ household amendment =>
    refine counted.kept (fun other ne => ⟨Table.find_put_ne ne, Table.find_put_ne ne⟩)
      (counted.intended found) ⟨.inl (by simp), fun r known => ?_, fun i known => ?_⟩ rfl rfl
    · cases (Table.find_put_self ..).symm.trans known
      exact household.symm
    · cases (Table.find_put_self ..).symm.trans known
      exact amendment.same.household
  | @revise _ _ _ revision =>
    have attributed := counted.reserved revision.found
    refine counted.kept (fun other ne => ⟨Table.find_put_ne ne, rfl⟩) attributed
      ⟨.inl (by simp), fun r known => ?_, attributed.intent⟩ rfl rfl
    cases (Table.find_put_self ..).symm.trans known
    exact revision.same.household
  | @release id old new _ revision _ settles =>
    have attributed := counted.reserved revision.found
    have row : ∀ r, (s.reservations.put id new).find id = some r → r.householdId = old.householdId := by
      intro r known
      cases (Table.find_put_self ..).symm.trans known
      exact revision.same.household
    rcases settles with ⟨-, rfl⟩ | ⟨before, after, known, amendment, -, rfl⟩
    · exact counted.kept (fun other ne => ⟨Table.find_put_ne ne, rfl⟩) attributed
        ⟨.inl (by simp), row, attributed.intent⟩ rfl rfl
    · refine counted.kept (fun other ne => ⟨Table.find_put_ne ne, Table.find_put_ne ne⟩) attributed
        ⟨.inl (by simp), row, fun i found => ?_⟩ rfl rfl
      cases (Table.find_put_self ..).symm.trans found
      exact amendment.same.household.trans (attributed.intent before known)
  | @expire id old _ found _ _ _ account =>
    have attributed := counted.reserved found
    have gone : (s.reservations.remove id).find id = none := (Table.find_remove ..).trans (if_pos rfl)
    have others : ∀ {other}, other ≠ id →
        (s.reservations.remove id).find other = s.reservations.find other :=
      fun ne => (Table.find_remove ..).trans (if_neg ne)
    rcases account with ⟨intended, rfl⟩ | ⟨unknown, -, some, rfl⟩
    · refine counted.kept (fun other ne => ⟨others ne, rfl⟩) attributed
        ⟨.inr intended, fun r known => ?_, attributed.intent⟩ rfl rfl
      cases gone.symm.trans known
    · exact counted.dropped old.householdId (fun other ne => ⟨others ne, rfl⟩) gone unknown attributed
        some rfl rfl
  | @amend _ _ _ found amendment =>
    have attributed := counted.intended found
    refine counted.kept (fun other ne => ⟨rfl, Table.find_put_ne ne⟩) attributed
      ⟨.inr (by simp), attributed.reservation, fun i known => ?_⟩ rfl rfl
    cases (Table.find_put_self ..).symm.trans known
    exact amendment.same.household
  | @forget _ old found _ _ unadmitted kept =>
    refine counted.dropped old.householdId (fun other ne => ⟨rfl, ?_⟩) unadmitted ?_
      (counted.intended found) kept.2 rfl rfl
    · exact (Table.find_remove ..).trans (if_neg ne)
    · exact (Table.find_remove ..).trans (if_pos rfl)
  | _ => exact ⟨counted.matched, counted.total, counted.households, counted.range, counted.room⟩

end

/-! ## Operations -/

/-- The operation counters are the numbers of the rows they count. -/
structure OperationsCounted (s : Store) : Prop where
  total : s.operationRetention.retainedCount = s.operations.count fun _ _ => true
  viewers : ∀ viewer v, s.controls.find viewer = some v → v.retainedOperations = s.operationsOf viewer
  room : s.operationRetention.retainedCount ≤ 131072
  range : ∀ viewer v, s.controls.find viewer = some v → v.retainedOperations ≤ 256

section
variable {s s' : Store}

theorem OperationsCounted.write (counted : OperationsCounted s) {id : Uuid}
    (controls : s'.controls = s.controls.put id new) (operations : s'.operations = s.operations)
    (retention : s'.operationRetention = s.operationRetention)
    (own : new.retainedOperations = s.operationsOf id) (range : new.retainedOperations ≤ 256) :
    OperationsCounted s' := by
  refine ⟨?_, fun viewer v found => ?_, retention ▸ counted.room, fun viewer v found => ?_⟩
  · rw [retention, operations, counted.total]
  · rw [controls, Table.find_put] at found
    rw [Store.operationsOf, operations]
    split at found
    · rename_i same
      cases found
      exact same ▸ own
    · exact counted.viewers viewer v found
  · rw [controls, Table.find_put] at found
    split at found
    · cases found
      exact range
    · exact counted.range viewer v found

theorem OperationsCounted.shifted (counted : OperationsCounted s) (id : Uuid) {row : Operation} {control : Control} {d : Int}
    (operations : ∀ p, (s'.operations.count p : Int) = s.operations.count p + if p id row then d else 0)
    (viewer : s.controls.find row.reservationId = some control) (controls : s'.controls = s.controls.put row.reservationId
      { control with retainedOperations := control.retainedOperations + d })
    (retention : s'.operationRetention.retainedCount = s.operationRetention.retainedCount + d)
    (room : s.operationRetention.retainedCount + d ≤ 131072) (range : control.retainedOperations + d ≤ 256) :
    OperationsCounted s' := by
  refine ⟨?_, fun other v found => ?_, retention ▸ room, fun other v found => ?_⟩
  · rw [retention, operations, counted.total, if_pos rfl]
  · rw [controls, Table.find_put] at found
    rw [Store.operationsOf, operations]
    split at found
    · rename_i same
      cases found
      simp [same, counted.viewers _ _ viewer, Store.operationsOf]
    · rename_i ne
      simp [Ne.symm ne, counted.viewers other v found, Store.operationsOf]
  · rw [controls, Table.find_put] at found
    split at found
    · cases found
      exact range
    · exact counted.range other v found

theorem OperationsCounted.inserted (counted : OperationsCounted s) {id : Uuid} {row : Operation}
    {control : Control} {cutoff : Time} (insertion : OperationInsertion s id row control)
    (operations : s'.operations = s.operations.put id row)
    (controls : s'.controls = s.controls.put row.reservationId
      { control with retainedOperations := control.retainedOperations + 1 })
    (retention : s'.operationRetention = (s.withOperations cutoff 1).operationRetention) :
    OperationsCounted s' := by
  refine counted.shifted id (fun p => ?_) insertion.viewer controls (by rw [retention]; rfl) insertion.room.2 insertion.room.1
  rw [operations, Table.count_put_new insertion.absent]
  cases p id row <;> simp

theorem OperationsCounted.deleted (counted : OperationsCounted s) {id : Uuid}
    {control : Control} (deletion : OperationDeletion s id old control)
    (operations : s'.operations = s.operations.remove id) (controls : s'.controls = s.controls.put old.reservationId
      { control with retainedOperations := control.retainedOperations - 1 })
    (retention : s'.operationRetention = (s.withOperations cutoff (-1)).operationRetention) :
    OperationsCounted s' := by
  have room := counted.room
  have range := counted.range _ _ deletion.viewer
  refine counted.shifted id (d := -1) (fun p => ?_) deletion.viewer controls (by rw [retention]; rfl) (by omega) (by omega)
  rw [operations, Table.count_split deletion.found]
  cases p id old <;> simp

theorem OperationsCounted.step (counted : OperationsCounted s) (rooted : Rooted s)
    (step : Step s s') : OperationsCounted s' := by
  cases step with
  | @expire id _ accounted _ _ _ _ account =>
    have kept : accounted.operations = s.operations ∧
        accounted.operationRetention = s.operationRetention := by
      obtain ⟨-, rfl⟩ | ⟨-, -, -, rfl⟩ := account <;> exact ⟨rfl, rfl⟩
    have controls : ∀ viewer v, (s.controls.remove id).find viewer = some v →
        s.controls.find viewer = some v := by
      intro viewer v known
      rw [Table.find_remove] at known
      split at known
      · cases known
      · exact known
    refine ⟨?_, fun viewer v known => ?_, ?_, fun viewer v known => ?_⟩
    · simp only [kept]
      exact counted.total
    · simp only [Store.operationsOf, kept]
      exact counted.viewers viewer v (controls viewer v known)
    · simp only [kept]
      exact counted.room
    · exact counted.range viewer v (controls viewer v known)
  | @insertControl id _ absent _ initial =>
    obtain ⟨-, -, zero⟩ := Control.of_initial initial
    have none : s.operationsOf id = 0 := by
      refine Table.count_eq_zero fun operation p found => decide_eq_false fun same => ?_
      have controlled := rooted.operations operation p found
      simp [same, absent] at controlled
    exact counted.write rfl rfl rfl (by simp [zero, none]) (by simp [zero])
  | @updateControl id old _ update =>
    have same := update.retained
    refine counted.write rfl rfl rfl ?_ ?_
    · exact same.trans (counted.viewers id old update.found)
    · exact same ▸ counted.range id old update.found
  | insertOperation insertion => exact counted.inserted insertion rfl rfl rfl
  | @updateOperation _ old new update =>
    have owner : new.reservationId = old.reservationId := by
      have same := update.same
      unfold Operation.SameAttribution at same
      rw [same]
    refine ⟨?_, fun viewer v found => ?_, counted.room, counted.range⟩
    · have past := Table.count_overwrite (r := new) (p := fun _ _ => true) update.found
      have before := counted.total
      simp only at past ⊢
      omega
    · have past := Table.count_overwrite (r := new) (p := fun _ p => p.reservationId = viewer) update.found
      have before := counted.viewers viewer v found
      simp only [Store.operationsOf, owner] at past before ⊢
      omega
  | deleteOperation deletion => exact counted.deleted deletion rfl rfl rfl
  | _ => exact ⟨counted.total, counted.viewers, counted.room, counted.range⟩

end

/-! ## Runs -/

theorem receipts_invariant : Invariant ReceiptsCounted :=
  .of_steps (fun _ _ _ step counted => counted.step step) fun _ _ _ counted =>
    ⟨counted.matched, counted.total, counted.households, counted.range, counted.room⟩

theorem operations_invariant : Invariant OperationsCounted :=
  .of_steps (fun _ _ consistent step counted => counted.step consistent.rooted step)
    fun _ _ _ counted => ⟨counted.total, counted.viewers, counted.room, counted.range⟩

theorem ReceiptsCounted.row (counted : ReceiptsCounted s) (household : Uuid) :
    s.households.find household = none ↔ (s.receiptIds (· = household)).card = 0 := by
  have size := counted.households household
  cases found : s.households.find household with
  | none =>
    rw [Store.counted, found] at size
    refine iff_of_true rfl ?_
    simp only [Option.getD_none] at size
    omega
  | some n =>
    rw [counted_eq found] at size
    have positive := (counted.range household n found).1
    refine iff_of_false (by simp) ?_
    omega

theorem ReceiptsCounted.bound (counted : ReceiptsCounted s) (household : Uuid) :
    (s.receiptIds (· = household)).card ≤ 4096 := by
  have size := counted.households household
  cases found : s.households.find household with
  | none =>
    have empty := (counted.row household).mp found
    omega
  | some n =>
    rw [counted_eq found] at size
    have range := (counted.range household n found).2
    omega

theorem OperationsCounted.bound (counted : OperationsCounted s) (rooted : Rooted s)
    (viewer : Uuid) : s.operationsOf viewer ≤ 256 := by
  cases found : s.controls.find viewer with
  | none =>
    have none : s.operationsOf viewer = 0 := by
      refine Table.count_eq_zero fun operation p known => decide_eq_false fun same => ?_
      have controlled := rooted.operations operation p known
      simp [same, found] at controlled
    omega
  | some v =>
    have size := counted.viewers viewer v found
    have range := counted.range viewer v found
    omega

/-- In every reachable state the counters are what they count: identities in total
and for each household, whose row goes with its last identity, and operations in
total and for each viewer; and each stays within its bound. -/
theorem retained_counts_exact (digest : ConfigurationResponse → Option String) {sys : System}
    (reachable : Reachable digest sys) :
    sys.store.retention.retainedCount = (sys.store.receiptIds fun _ => true).card ∧
    (∀ household n, sys.store.households.find household = some n →
      n = (sys.store.receiptIds (· = household)).card) ∧
    (∀ household, sys.store.households.find household = none ↔
      (sys.store.receiptIds (· = household)).card = 0) ∧
    sys.store.operationRetention.retainedCount = sys.store.operations.count (fun _ _ => true) ∧
    (∀ viewer v, sys.store.controls.find viewer = some v →
      v.retainedOperations = sys.store.operationsOf viewer) ∧
    (sys.store.receiptIds fun _ => true).card ≤ 65536 ∧
    (∀ household, (sys.store.receiptIds (· = household)).card ≤ 4096) ∧
    sys.store.operations.count (fun _ _ => true) ≤ 131072 ∧
    ∀ viewer, sys.store.operationsOf viewer ≤ 256 := by
  have receipts : ReceiptsCounted sys.store :=
    reachable.invariant receipts_invariant fun now => by
      constructor <;> simp [Store.migrated, Store.counted, Store.receiptIds]
  have operations : OperationsCounted sys.store :=
    reachable.invariant operations_invariant fun now => by constructor <;> simp [Store.migrated]
  have rooted := reachable.sound.settled.rooted
  refine ⟨receipts.total, fun household n found => ?_, receipts.row, operations.total,
    operations.viewers, ?_, receipts.bound, ?_, operations.bound rooted⟩
  · exact (counted_eq found).symm.trans (receipts.households household)
  · have total := receipts.total
    have room := receipts.room
    omega
  · have total := operations.total
    have room := operations.room
    omega

theorem playing_counts_exact :
    (run Sample.digest (.deployed Sample.start) Sample.playing).store.retention.retainedCount =
      ((run Sample.digest (.deployed Sample.start) Sample.playing).store.receiptIds
        fun _ => true).card :=
  (retained_counts_exact Sample.digest ⟨Sample.start, Sample.playing, rfl⟩).1

end Duskcue.Playback
