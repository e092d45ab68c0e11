import Mathlib.Tactic.Basic

/-! Channels between tasks. A broadcast channel keeps the latest values it was
sent, up to a capacity, and each receiver reads them from its own position: one
that fell behind by more than the capacity is told how many it missed and goes
on with the oldest value still there. -/
namespace Duskcue

variable {α : Type}

/-- `tokio::sync::broadcast`, by everything ever sent through it. -/
structure Broadcast (α : Type) where
  capacity : Nat
  sent : List α

/-- What a receiver is given. -/
inductive Broadcast.Received (α : Type)
  | value (value : α)
  | lagged (missed : Nat)
  | empty

namespace Broadcast

def channel (capacity : Nat) : Broadcast α := ⟨capacity, []⟩

def send (c : Broadcast α) (value : α) : Broadcast α := { c with sent := c.sent ++ [value] }

/-- A new receiver starts behind everything sent so far. -/
def subscribe (c : Broadcast α) : Nat := c.sent.length

/-- How many values a receiver at this position has not read. -/
def lag (c : Broadcast α) (position : Nat) : Nat := c.sent.length - position

/-- Receive at a position, with the position afterwards. -/
def recv (c : Broadcast α) (position : Nat) : Received α × Nat :=
  if c.capacity < c.lag position then
    (.lagged (c.lag position - c.capacity), c.sent.length - c.capacity)
  else match c.sent[position]? with
    | some value => (.value value, position + 1)
    | none => (.empty, position)

/-- The values a receiver at this position has yet to read. -/
def unread (c : Broadcast α) (position : Nat) : List α := c.sent.drop position

variable {c : Broadcast α} {position : Nat} {value : α}

@[simp] theorem unread_subscribe : c.unread c.subscribe = [] := by
  simp [unread, subscribe]

/-- Without lag a receiver takes the first value it has not read, if there is one. -/
theorem recv_cases (keeps : c.lag position ≤ c.capacity) :
    (∃ value, c.recv position = (.value value, position + 1) ∧ position + 1 ≤ c.sent.length ∧
        c.unread position = value :: c.unread (position + 1)) ∨
      c.recv position = (.empty, position) := by
  have steady : ¬ c.capacity < c.lag position := by omega
  unfold recv
  rw [if_neg steady]
  cases held : c.sent[position]? with
  | none => exact .inr rfl
  | some value =>
    obtain ⟨inside, same⟩ := List.getElem?_eq_some_iff.mp held
    refine .inl ⟨value, rfl, inside, ?_⟩
    rw [unread, unread, List.drop_eq_getElem_cons inside, same]

end Broadcast
end Duskcue
