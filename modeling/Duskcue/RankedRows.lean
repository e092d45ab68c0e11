import Mathlib.Data.List.Sort

/-! Rows numbered within their parts and then sorted. A query may number the rows of
each part in one order and give all of them in another; an `Arrangement` is one way
the rows come that an order leaves tied. Where the second order keeps to the numbers
within a part, any first rows of the answer hold the numbers of each part from
one on. They ascend through all of them exactly where they are of one part. -/
namespace Duskcue

variable {α κ : Type}

/-- `a` comes no later than `b`. -/
def NoLater (cmp : α → α → Ordering) (a b : α) : Prop := (cmp a b).isLE = true

/-- Rows compared by what `f` reads of them. -/
def through {β : Type} (f : α → β) (cmp : β → β → Ordering) (a b : α) : Ordering := cmp (f a) (f b)

section
variable {cmp : α → α → Ordering}

instance : DecidableRel (NoLater cmp) := fun a b => inferInstanceAs (Decidable ((cmp a b).isLE = true))

instance [Std.OrientedCmp cmp] : Std.Total (NoLater cmp) where
  total a b := by
    unfold NoLater
    cases compared : cmp a b with
    | lt | eq => exact .inl rfl
    | gt =>
      rw [Std.OrientedCmp.lt_of_gt compared]
      exact .inr rfl

instance [Std.TransCmp cmp] : IsTrans α (NoLater cmp) where
  trans _ _ _ first second := Std.TransCmp.isLE_trans first second

end

instance {β : Type} {f : α → β} {cmp : β → β → Ordering} [Std.TransCmp cmp] : Std.TransCmp (through f cmp) where
  eq_swap {a b} := show cmp (f a) (f b) = (cmp (f b) (f a)).swap from Std.OrientedCmp.eq_swap
  isLE_trans {a b c} first second :=
    show (cmp (f a) (f c)).isLE = true from Std.TransCmp.isLE_trans (b := f b) first second

/-- One way rows may come. -/
structure Arrangement (α : Type) where
  arrange : List α → List α
  perm : ∀ rows, (arrange rows).Perm rows

namespace Arrangement

/-- The rows come as they are stored. -/
def stored : Arrangement α := ⟨id, fun _ => .refl _⟩

/-- `ORDER BY r`. -/
def orderBy (come : Arrangement α) (r : α → α → Prop) [DecidableRel r] (rows : List α) : List α :=
  (come.arrange rows).insertionSort r

variable {come : Arrangement α} {r : α → α → Prop} [DecidableRel r] {rows : List α}

theorem orderBy_perm : (come.orderBy r rows).Perm rows :=
  (List.perm_insertionSort r _).trans (come.perm rows)

@[simp] theorem mem_orderBy : row ∈ come.orderBy r rows ↔ row ∈ rows := orderBy_perm.mem_iff

theorem orderBy_sorted [Std.Total r] [IsTrans α r] : (come.orderBy r rows).Pairwise r :=
  List.pairwise_insertionSort r _

end Arrangement

section
variable [DecidableEq κ] (part : α → κ)

/-- Each row with the number of the rows of its part up to it. -/
def rowNumbersFrom : List α → List α → List (α × Nat)
  | _, [] => []
  | before, row :: rows =>
    (row, before.countP (fun earlier => part earlier = part row) + 1) :: rowNumbersFrom (row :: before) rows

/-- `ROW_NUMBER() OVER (PARTITION BY part ...)`, of rows in the order of the window. -/
def rowNumbers (rows : List α) : List (α × Nat) := rowNumbersFrom part [] rows

/-- The rows of each part come with the numbers from one on. -/
def Numbered (number : α → Nat) (rows : List α) : Prop :=
  ∀ p, ∃ count, (rows.filter fun row => part row = p).map number = List.range' 1 count

end

section
variable [DecidableEq κ] {part : α → κ} {number : α → Nat} {rows kept : List α}

theorem rowNumbersFrom_fst (before rows : List α) : (rowNumbersFrom part before rows).map Prod.fst = rows := by
  induction rows generalizing before with
  | nil => rfl
  | cons _ _ ih => simp only [rowNumbersFrom, List.map_cons, ih]

theorem rowNumbersFrom_part (p : κ) (before rows : List α) :
    ((rowNumbersFrom part before rows).filter fun row => part row.1 = p).map Prod.snd =
      List.range' (before.countP (fun row => part row = p) + 1) (rows.countP fun row => part row = p) := by
  induction rows generalizing before with
  | nil => rfl
  | cons row _ ih =>
    by_cases same : part row = p
    · subst same
      simp [rowNumbersFrom, ih, List.range'_succ]
    · simp [rowNumbersFrom, ih, same]

theorem rowNumbers_fst (rows : List α) : (rowNumbers part rows).map Prod.fst = rows := rowNumbersFrom_fst [] rows

theorem rowNumbers_numbered (rows : List α) : Numbered (fun row => part row.1) Prod.snd (rowNumbers part rows) :=
  fun p => ⟨_, rowNumbersFrom_part p [] rows⟩

namespace Numbered

/-- An order that keeps to the numbers within a part gives each part in their order. -/
theorem orderBy (numbered : Numbered part number rows) (come : Arrangement α) [DecidableRel r]
    [Std.Total r] [IsTrans α r] (within : ∀ a ∈ rows, ∀ b ∈ rows, part a = part b → r a b → number a ≤ number b) :
    Numbered part number (come.orderBy r rows) := by
  intro p
  obtain ⟨count, counted⟩ := numbered p
  refine ⟨count, ?_⟩
  have same : ((come.orderBy r rows).filter fun row => part row = p).map number |>.Perm (List.range' 1 count) := by
    rw [← counted]
    exact (come.orderBy_perm.filter _).map number
  have ordered : (((come.orderBy r rows).filter fun row => part row = p).map number).Pairwise (· ≤ ·) := by
    rw [List.pairwise_map]
    have sorted : ((come.orderBy r rows).filter fun row => part row = p).Pairwise r :=
      Arrangement.orderBy_sorted.sublist List.filter_sublist
    refine sorted.imp_of_mem fun {a b} first second related => ?_
    obtain ⟨memberA, own⟩ := List.mem_filter.mp first
    obtain ⟨memberB, other⟩ := List.mem_filter.mp second
    rw [decide_eq_true_eq] at own other
    exact within a (Arrangement.mem_orderBy.mp memberA) b (Arrangement.mem_orderBy.mp memberB)
      (own.trans other.symm) related
  have ascending : (List.range' 1 count).Pairwise (· < ·) := List.pairwise_lt_range'
  have range : (List.range' 1 count).Pairwise (· ≤ ·) := ascending.imp Nat.le_of_lt
  exact same.eq_of_pairwise (fun a b _ _ => Nat.le_antisymm) ordered range

/-- A choice that takes parts as a whole. -/
theorem filter (numbered : Numbered part number rows)
    (whole : ∀ a ∈ rows, ∀ b ∈ rows, part a = part b → chosen a = chosen b) :
    Numbered part number (rows.filter chosen) := by
  intro p
  obtain ⟨count, counted⟩ := numbered p
  by_cases held : ∃ row ∈ rows, part row = p ∧ chosen row = true
  · obtain ⟨row, member, own, choice⟩ := held
    refine ⟨count, ?_⟩
    rw [← counted, List.filter_filter]
    congr 1
    refine List.filter_congr fun other within => ?_
    by_cases same : part other = p
    · simp [same, whole other within row member (same.trans own.symm), choice]
    · simp [same]
  · refine ⟨0, ?_⟩
    rw [List.filter_filter, List.filter_eq_nil_iff.mpr]
    · rfl
    · intro other member both
      rw [Bool.and_eq_true, decide_eq_true_eq] at both
      exact held ⟨other, member, both.1, both.2⟩

theorem map {β : Type} {f : α → β} {part : β → κ} {number : β → Nat}
    (numbered : Numbered (fun row => part (f row)) (fun row => number (f row)) rows) :
    Numbered part number (rows.map f) := by
  intro p
  obtain ⟨count, counted⟩ := numbered p
  refine ⟨count, ?_⟩
  rw [List.filter_map, List.map_map]
  exact counted

section
variable (numbered : Numbered part number rows)
include numbered

theorem take (limit : Nat) : Numbered part number (rows.take limit) := by
  intro p
  obtain ⟨count, counted⟩ := numbered p
  have before : ((rows.take limit).filter fun row => part row = p).map number <+: List.range' 1 count := by
    rw [← counted]
    exact ((List.take_prefix limit rows).filter _).map number
  obtain ⟨rest, whole⟩ := before
  obtain ⟨first, -, same, -⟩ := List.range'_eq_append_iff.mp whole.symm
  exact ⟨first, same⟩

theorem le_length (member : row ∈ rows) : 1 ≤ number row ∧ number row ≤ rows.length := by
  obtain ⟨count, counted⟩ := numbered (part row)
  have own : number row ∈ List.range' 1 count := by
    rw [← counted]
    exact List.mem_map_of_mem (List.mem_filter.mpr ⟨member, decide_eq_true rfl⟩)
  have bounded : count ≤ rows.length := by
    have length : (List.range' 1 count).length = count := List.length_range'
    rw [← length, ← counted, List.length_map]
    exact List.length_filter_le _ _
  rw [List.mem_range'_1] at own
  omega

/-- Each part that is there begins with the number one. -/
theorem exists_first (member : row ∈ rows) : ∃ first ∈ rows, part first = part row ∧ number first = 1 := by
  obtain ⟨count, counted⟩ := numbered (part row)
  have own : row ∈ rows.filter fun other => part other = part row := List.mem_filter.mpr ⟨member, decide_eq_true rfl⟩
  have one : 1 ∈ (rows.filter fun other => part other = part row).map number := by
    have held : number row ∈ List.range' 1 count := counted ▸ List.mem_map_of_mem own
    rw [counted]
    rw [List.mem_range'_1] at held ⊢
    omega
  obtain ⟨first, within, named⟩ := List.mem_map.mp one
  obtain ⟨there, same⟩ := List.mem_filter.mp within
  exact ⟨first, there, of_decide_eq_true same, named⟩

/-- The numbers ascend exactly where all rows are of one part. -/
theorem ascending_iff : (rows.map number).Pairwise (· < ·) ↔ ∀ a ∈ rows, ∀ b ∈ rows, part a = part b := by
  constructor
  · intro ascending a memberA b memberB
    obtain ⟨firstA, thereA, sameA, oneA⟩ := numbered.exists_first memberA
    obtain ⟨firstB, thereB, sameB, oneB⟩ := numbered.exists_first memberB
    have distinct : (rows.map number).Nodup := ascending.imp Nat.ne_of_lt
    have one : firstA = firstB := List.inj_on_of_nodup_map distinct thereA thereB (oneA.trans oneB.symm)
    rw [← sameA, one, sameB]
  · intro sole
    cases rows with
    | nil => exact List.Pairwise.nil
    | cons row rows =>
      obtain ⟨count, counted⟩ := numbered (part row)
      have all : (row :: rows).filter (fun other => part other = part row) = row :: rows :=
        List.filter_eq_self.mpr fun other member => decide_eq_true (sole other member row List.mem_cons_self)
      rw [all] at counted
      rw [counted]
      exact List.pairwise_lt_range'

end

end Numbered
end
end Duskcue
