import Mathlib.Tactic.Linarith

/-! Signed 32-bit arithmetic. The release build has no overflow checks, so the values it
goes on with are wrapped; a checked result is for what is said about overflow itself. -/
namespace Duskcue

def fits32 (n : Int) : Bool := -2147483648 ≤ n && n ≤ 2147483647

/-- The result of an operation, unless it overflows. -/
def checked32 (n : Int) : Option Int := if fits32 n then some n else none

/-- The value the build goes on with. -/
def wrapped32 (n : Int) : Int := n.bmod 4294967296

theorem fits32_iff : fits32 n = true ↔ -2147483648 ≤ n ∧ n ≤ 2147483647 := by
  rw [fits32, Bool.and_eq_true, decide_eq_true_eq, decide_eq_true_eq]

theorem checked32_of_fits (fits : fits32 n = true) : checked32 n = some n := if_pos fits

theorem wrapped32_of_fits (fits : fits32 n = true) : wrapped32 n = n := by
  have bounds := fits32_iff.mp fits
  exact Int.bmod_eq_of_le (by omega) (by omega)

end Duskcue
