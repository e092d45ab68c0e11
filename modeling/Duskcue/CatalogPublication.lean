import Duskcue.Batches
import Duskcue.CatalogSecrets
import Duskcue.Statements

/-! Publication of a candidate catalog. The sealed rows of a kind go into the snapshot by
statements of bounded size, each with the rows behind those of the one before. -/
namespace Duskcue.Imports.Publication
open Batches

variable {rows : List Row}

/-- `SealedRow`, with what has been sealed. -/
structure Row extends SealedRow where
  metadata : List Char
  stream : Option (List Char)
  logo : Option (List Char)

/-- What `insert` counts for a row. -/
def Row.cost (row : Row) : Nat :=
  1024 + (utf8 row.metadata).length + (row.stream.map fun stream => (utf8 stream).length).getD 0 +
    (row.logo.map fun logo => (utf8 logo).length).getD 0

def maxRows : Nat := 250
def maxBytes : Nat := 1024 * 1024

inductive CatalogTable where
  | guides
  | channels
  | programmes

/-- The kinds `publish` inserts. -/
inductive Kind where
  | guide
  | channel
  | programme

def Kind.text : Kind → List Char
  | .guide => "guide".toList
  | .channel => "channel".toList
  | .programme => "programme".toList

/-- The table the statement names. -/
def table (kind : List Char) : Option CatalogTable :=
  if kind = "guide".toList then some .guides
  else if kind = "channel".toList then some .channels
  else if kind = "programme".toList then some .programmes
  else none

structure ChannelColumns where
  guideId : Option Uuid
  channelKey : Option (List UInt8)
  stream : Option (List Char)
  logo : Option (List Char)

structure ProgrammeColumns where
  guideId : Option Uuid
  startsAt : Option Instant
  stopsAt : Option Instant
  qualityFlags : BitVec 32

/-- The values bound for one row. -/
structure Values where
  id : Uuid
  householdUserId : Uuid
  assignmentId : Uuid
  snapshotId : Uuid
  metadata : List Char
  channel : Option ChannelColumns
  programme : Option ProgrammeColumns

def values (receipt : Receipt) (kind : List Char) (row : Row) : Values where
  id := row.id
  householdUserId := receipt.fence.user
  assignmentId := receipt.fence.assignment
  snapshotId := receipt.snapshot
  metadata := row.metadata
  channel := if kind = "channel".toList then some ⟨row.guide, row.channelKey, row.stream, row.logo⟩ else none
  programme := if kind = "programme".toList then some ⟨row.guide, row.start, row.stop, row.flags⟩ else none

structure Insertion where
  table : CatalogTable
  values : List Values

/-- The statement for the rows of one batch. -/
def insertion (receipt : Receipt) (kind : List Char) (table : CatalogTable) (batch : List Row) : Insertion :=
  ⟨table, batch.map (values receipt kind)⟩

/-- `&rows[offset..stop]`. -/
def slice (rows : List Row) (offset stop : Nat) : List Row := (rows.drop offset).take (stop - offset)

/-- The inner loop: where the batch that starts at `offset` ends. -/
def batchEnd (rows : List Row) (offset stop bytes : Nat) : Nat :=
  if inside : stop < rows.length ∧ stop - offset < maxRows then
    let cost := (rows.get ⟨stop, inside.1⟩).cost
    if maxBytes < bytes + cost then stop else batchEnd rows offset (stop + 1) (bytes + cost)
  else stop
termination_by rows.length - stop

theorem le_batchEnd (rows : List Row) (offset stop bytes : Nat) : stop ≤ batchEnd rows offset stop bytes := by
  fun_induction batchEnd rows offset stop bytes <;> omega

variable {σ : Type}

/-- A statement the database refuses is a `sqlx::Error`. -/
def perform (execute : Insertion → σ → Option σ) (insertion : Insertion) (s : σ) : Except ImportError σ :=
  match execute insertion s with
  | none => .error .storage
  | some after => .ok after

/-- The outer loop. `cancelled` is what the cancellation says at each offset. -/
def insertFrom (execute : Insertion → σ → Option σ) (receipt : Receipt) (kind : List Char) (rows : List Row)
    (cancelled : Nat → Bool) (offset : Nat) : Statements σ Insertion ImportError Unit :=
  if offset < rows.length then
    if cancelled offset then .fail .cancelled
    else
      let stop := batchEnd rows offset offset 0
      if stop = offset then .fail .limit
      else
        match table kind with
        | none => .fail .storage
        | some table =>
          let insertion := insertion receipt kind table (slice rows offset stop)
          .send insertion (perform execute insertion) fun _ => insertFrom execute receipt kind rows cancelled stop
  else .done ()
termination_by rows.length - offset
decreasing_by
  have further := le_batchEnd rows offset offset 0
  omega

/-- `insert`. -/
def insert (execute : Insertion → σ → Option σ) (receipt : Receipt) (kind : List Char) (rows : List Row)
    (cancelled : Nat → Bool) : Statements σ Insertion ImportError Unit :=
  insertFrom execute receipt kind rows cancelled 0

/-! ## One batch -/

theorem slice_self (rows : List Row) (offset : Nat) : slice rows offset offset = [] := by simp [slice]

theorem length_slice (inside : stop ≤ rows.length) : (slice rows offset stop).length = stop - offset := by
  rw [slice, List.length_take, List.length_drop]
  omega

theorem slice_append (forward : offset ≤ stop) :
    slice rows offset stop ++ rows.drop stop = rows.drop offset := by
  have same : rows.drop stop = (rows.drop offset).drop (stop - offset) := by
    rw [List.drop_drop]
    congr 1
    omega
  rw [slice, same, List.take_append_drop]

theorem slice_succ (forward : offset ≤ stop) (inside : stop < rows.length) :
    slice rows offset (stop + 1) = slice rows offset stop ++ [rows.get ⟨stop, inside⟩] := by
  have next : (rows.drop offset)[stop - offset]? = some (rows.get ⟨stop, inside⟩) := by
    rw [List.getElem?_drop, Nat.add_sub_cancel' forward]
    exact List.getElem?_eq_getElem inside
  rw [slice, slice, Nat.succ_sub forward, List.take_add_one, next]
  rfl

/-- Where the loop stops the batch is within both bounds, and the next row is not. -/
theorem batchEnd_spec (forward : offset ≤ stop)
    (inside : stop ≤ rows.length) (counted : ((slice rows offset stop).map Row.cost).sum = bytes)
    (fits : Fits Row.cost maxRows maxBytes (slice rows offset stop)) :
    batchEnd rows offset stop bytes ≤ rows.length ∧
      Fits Row.cost maxRows maxBytes (slice rows offset (batchEnd rows offset stop bytes)) ∧
      ∀ next ∈ (rows.drop (batchEnd rows offset stop bytes)).head?,
        ¬ Fits Row.cost maxRows maxBytes (slice rows offset (batchEnd rows offset stop bytes) ++ [next]) := by
  fun_induction batchEnd rows offset stop bytes with
  | case1 stop bytes more _ large =>
    -- The next row would go past the bytes.
    refine ⟨inside, fits, fun next first within => ?_⟩
    rw [List.head?_drop, List.getElem?_eq_getElem more.1] at first
    cases first
    have bound := within.2
    simp only [List.map_append, List.map_cons, List.map_nil, List.sum_append, List.sum_cons, List.sum_nil,
      counted] at bound
    exact absurd bound (Nat.not_le.mpr large)
  | case2 stop bytes more cost _ ih =>
    have summed : ((slice rows offset (stop + 1)).map Row.cost).sum = bytes + cost := by
      rw [slice_succ forward more.1, List.map_append, List.sum_append, counted]
      simp [cost]
    refine ih (by omega) more.1 summed ⟨?_, ?_⟩
    · rw [length_slice more.1]
      omega
    · rw [summed]
      omega
  | case3 stop bytes last =>
    -- No row is left, or the next would be one too many.
    refine ⟨inside, fits, fun next first within => ?_⟩
    rw [List.head?_drop] at first
    obtain ⟨more, -⟩ := List.getElem?_eq_some_iff.mp first
    have length := within.1
    rw [List.length_append, length_slice inside] at length
    exact last ⟨more, Nat.lt_of_succ_le length⟩

theorem batch_spec (inside : offset ≤ rows.length) :
    batchEnd rows offset offset 0 ≤ rows.length ∧
      Fits Row.cost maxRows maxBytes (slice rows offset (batchEnd rows offset offset 0)) ∧
      ∀ next ∈ (rows.drop (batchEnd rows offset offset 0)).head?,
        ¬ Fits Row.cost maxRows maxBytes (slice rows offset (batchEnd rows offset offset 0) ++ [next]) :=
  batchEnd_spec le_rfl inside (by rw [slice_self]; rfl) (by rw [slice_self]; exact ⟨Nat.zero_le _, Nat.zero_le _⟩)

/-- The loop stays where it is only before a row too large for any batch. -/
theorem exists_large (inside : offset < rows.length)
    (stuck : batchEnd rows offset offset 0 = offset) : ∃ row ∈ rows.drop offset, maxBytes < row.cost := by
  obtain ⟨-, -, full⟩ := batch_spec inside.le
  rw [stuck, slice_self] at full
  have first : (rows.drop offset).head? = some (rows.get ⟨offset, inside⟩) := by
    rw [List.head?_drop]
    exact List.getElem?_eq_getElem inside
  refine ⟨_, List.mem_of_head? first, Nat.not_le.mp fun small => full _ first ⟨?_, ?_⟩⟩
  · exact Nat.succ_le_succ (Nat.zero_le 249)
  · simpa using small

/-! ## The whole insertion -/

theorem table_text (kind : Kind) : ∃ found, table kind.text = some found := by
  cases kind <;> exact ⟨_, rfl⟩

/-- How an insertion ends that has a statement for every row. -/
inductive Ends (execute : Insertion → σ → Option σ) (receipt : Receipt) (kind : List Char)
    (cancelled : Nat → Bool) (rows : List Row) : Statements.Execution σ Insertion ImportError Unit → Prop
  | whole {found : CatalogTable} {batches : List (List Row)} {after : σ} (known : table kind = some found)
      (batched : Batched Row.cost maxRows maxBytes rows batches) :
      Ends execute receipt kind cancelled rows ⟨batches.map (insertion receipt kind found), .ok (), after⟩
  | limit (member : row ∈ rows) (large : maxBytes < row.cost) :
      Ends execute receipt kind cancelled rows ⟨sent, .error (.raised .limit), after⟩
  | cancelled (told : cancelled offset = true) :
      Ends execute receipt kind cancelled rows ⟨sent, .error (.raised .cancelled), after⟩
  | refused (turned : execute next after = none) :
      Ends execute receipt kind cancelled rows ⟨sent, .error (.raised .storage), after⟩

variable {execute : Insertion → σ → Option σ} {receipt : Receipt} {kind : List Char} {cancelled : Nat → Bool}
  {rows rest first : List Row}

theorem Ends.nil (known : table kind = some found) (after : σ) :
    Ends execute receipt kind cancelled [] ⟨[], .ok (), after⟩ :=
  @Ends.whole _ _ _ _ _ _ _ [] _ known .nil

/-- A statement for the first batch has gone before the insertion of the rows behind it. -/
theorem Ends.cons {found : CatalogTable} {done : Statements.Execution σ Insertion ImportError Unit}
    (known : table kind = some found) (filled : first ≠ []) (fits : Fits Row.cost maxRows maxBytes first)
    (full : ∀ next ∈ rest.head?, ¬ Fits Row.cost maxRows maxBytes (first ++ [next]))
    (ends : Ends execute receipt kind cancelled rest done) :
    Ends execute receipt kind cancelled (first ++ rest)
      { done with sent := insertion receipt kind found first :: done.sent } := by
  cases ends with
  | @whole _ batches _ again batched =>
    cases known.symm.trans again
    exact @Ends.whole _ _ _ _ _ _ _ (first :: batches) _ known (batched.cons filled fits full)
  | limit member large => exact .limit (List.mem_append_right first member) large
  | cancelled told => exact .cancelled told
  | refused turned => exact .refused turned

theorem insertFrom_ends (execute : Insertion → σ → Option σ) (receipt : Receipt) (kind : Kind) (rows : List Row)
    (cancelled : Nat → Bool) (offset budget : Nat) (inside : offset ≤ rows.length)
    (enough : rows.length - offset ≤ budget) (s : σ) :
    Ends execute receipt kind.text cancelled (rows.drop offset)
      ((insertFrom execute receipt kind.text rows cancelled offset).run budget s) := by
  obtain ⟨found, known⟩ := table_text kind
  induction budget generalizing offset s with
  | zero =>
    have finished : offset = rows.length := by omega
    subst finished
    rw [insertFrom, if_neg (Nat.lt_irrefl _), List.drop_length]
    exact .nil known s
  | succ _ ih =>
    by_cases more : offset < rows.length
    · rw [insertFrom, if_pos more]
      by_cases told : cancelled offset = true
      · rw [if_pos told]
        exact .cancelled told
      rw [if_neg told]
      by_cases stuck : batchEnd rows offset offset 0 = offset
      · obtain ⟨row, member, large⟩ := exists_large more stuck
        rw [if_pos stuck]
        exact .limit member large
      · obtain ⟨within, fits, full⟩ := batch_spec more.le
        have further := le_batchEnd rows offset offset 0
        have filled : slice rows offset (batchEnd rows offset offset 0) ≠ [] := by
          rw [← List.length_pos_iff, length_slice within]
          omega
        rw [if_neg stuck, known, ← slice_append further]
        simp only [Statements.run, perform]
        cases taken :
          execute (insertion receipt kind.text found (slice rows offset (batchEnd rows offset offset 0))) s with
        | none => exact .refused taken
        | some after => exact (ih _ within (by omega) after).cons known filled fits full
    · have finished : offset = rows.length := by omega
      subst finished
      rw [insertFrom, if_neg more, List.drop_length]
      exact .nil known s

/-- An insertion that is not cancelled ends. Unless the database refuses one of its statements
it has inserted each row once and in order, by statements as large as the bounds allow, or it
has failed with `Limit`; it fails so exactly when a row is by itself too large. -/
theorem insert_batches (execute : Insertion → σ → Option σ) (receipt : Receipt) (kind : Kind) (rows : List Row)
    (s : σ) :
    let done := (insert execute receipt kind.text rows fun _ => false).run rows.length s
    (done.outcome = .error (.raised .storage) ∧ ∃ next, execute next done.store = none) ∨
      ((done.outcome = .ok () ∧ ∃ found batches, table kind.text = some found ∧
            Batched Row.cost maxRows maxBytes rows batches ∧
              done.sent = batches.map (insertion receipt kind.text found)) ∨
          done.outcome = .error (.raised .limit)) ∧
        (done.outcome = .error (.raised .limit) ↔ ∃ row ∈ rows, maxBytes < row.cost) := by
  intro done
  have ends : Ends execute receipt kind.text (fun _ => false) rows done :=
    insertFrom_ends execute receipt kind rows _ 0 rows.length (Nat.zero_le _) le_rfl s
  clear_value done
  cases ends with
  | @whole found batches after known batched =>
    refine .inr ⟨.inl ⟨rfl, found, batches, known, batched, rfl⟩, nofun, ?_⟩
    rintro ⟨row, member, large⟩
    exact absurd (batched.cost_le member) (Nat.not_le.mpr large)
  | limit member large => exact .inr ⟨.inr rfl, fun _ => ⟨_, member, large⟩, fun _ => rfl⟩
  | cancelled told => cases told
  | refused turned => exact .inl ⟨rfl, _, turned⟩

end Duskcue.Imports.Publication
