import Mathlib.Algebra.Order.BigOperators.Group.List
import Mathlib.Algebra.Order.Ring.Nat

/-! Rows cut into batches. A batch is bounded by how many rows it has and by what they cost
together, and is only cut where the next row would go past a bound. -/
namespace Duskcue.Batches

variable {α : Type*} (cost : α → Nat) (count room : Nat)

/-- What one batch may hold. -/
def Fits (batch : List α) : Prop := batch.length ≤ count ∧ (batch.map cost).sum ≤ room

/-- Each row once and in order, by batches that could not take the row behind them. -/
structure Batched (rows : List α) (batches : List (List α)) : Prop where
  whole : batches.flatten = rows
  filled : ∀ batch ∈ batches, batch ≠ []
  fits : ∀ batch ∈ batches, Fits cost count room batch
  full : batches.IsChain fun first second => ∀ next ∈ second.head?, ¬ Fits cost count room (first ++ [next])

variable {cost count room} {rows rest first : List α} {batches : List (List α)}

theorem Batched.nil : Batched cost count room [] [] where
  whole := rfl
  filled := by simp
  fits := by simp
  full := .nil

theorem Batched.head (batched : Batched cost count room rows (first :: batches)) : first.head? = rows.head? := by
  obtain ⟨row, others, rfl⟩ := List.exists_cons_of_ne_nil (batched.filled first (by simp))
  rw [← batched.whole]
  rfl

theorem Batched.cons (filled : first ≠ []) (fits : Fits cost count room first)
    (full : ∀ next ∈ rest.head?, ¬ Fits cost count room (first ++ [next]))
    (batched : Batched cost count room rest batches) : Batched cost count room (first ++ rest) (first :: batches) where
  whole := by rw [List.flatten_cons, batched.whole]
  filled := List.forall_mem_cons.mpr ⟨filled, batched.filled⟩
  fits := List.forall_mem_cons.mpr ⟨fits, batched.fits⟩
  full := by
    cases batches with
    | nil => exact .singleton first
    | cons =>
      refine .cons_cons ?_ batched.full
      rw [batched.head]
      exact full

/-- No row of a batch costs more than the batch may. -/
theorem Fits.cost_le (fits : Fits cost count room batch) (member : row ∈ batch) : cost row ≤ room := by
  have single : cost row ≤ (batch.map cost).sum := List.le_sum_of_mem (List.mem_map_of_mem member)
  exact single.trans fits.2

theorem Batched.cost_le (batched : Batched cost count room rows batches) (member : row ∈ rows) :
    cost row ≤ room := by
  rw [← batched.whole] at member
  obtain ⟨batch, among, within⟩ := List.mem_flatten.mp member
  exact (batched.fits batch among).cost_le within

end Duskcue.Batches
