import Duskcue.TextPieces

/-! Numbers written in decimals with leading zeros, and read back where they fit a bound. -/
namespace Duskcue.Decimals
open Text

/-- The number with at least so many digits: `format!("{n:0width}")`. -/
def padded (width n : Nat) : List Char :=
  let digits := Nat.toDigits 10 n
  List.replicate (width - digits.length) '0' ++ digits

/-- `str::parse` at an unsigned type with the numbers below the bound. -/
def parseBelow (bound : Nat) (text : List Char) : Option Nat :=
  let digits := (stripPrefix ['+'] text).getD text
  let value := Nat.ofDigitChars 10 digits 0
  if digits ≠ [] ∧ (digits.all Char.isDigit) = true ∧ value < bound then some value else none

/-- `parse::<i64>`. -/
def parseI64 (text : List Char) : Option Int :=
  match text with
  | '-' :: digits =>
    if digits ≠ [] ∧ digits.all Char.isDigit = true ∧ Nat.ofDigitChars 10 digits 0 ≤ 2 ^ 63 then
      some (-(Nat.ofDigitChars 10 digits 0 : Int))
    else none
  | _ => (parseBelow (2 ^ 63) text).map Int.ofNat

variable {width n bound : Nat} {c : Char}

theorem padded_ne_nil (width n : Nat) : padded width n ≠ [] := by
  unfold padded
  intro empty
  exact Nat.toDigits_ne_nil (List.append_eq_nil_iff.mp empty).2

theorem isDigit_of_mem_padded (member : c ∈ padded width n) : c.isDigit = true := by
  rcases List.mem_append.mp member with zero | digit
  · rw [List.eq_of_mem_replicate zero]
    decide
  · exact Nat.isDigit_of_mem_toDigits (by decide) (by decide) digit

theorem not_mem_padded (other : c.isDigit = false) : c ∉ padded width n := by
  intro member
  rw [isDigit_of_mem_padded member] at other
  cases other

theorem padded_zero (n : Nat) : padded 0 n = Nat.toDigits 10 n := by
  simp [padded]

theorem length_padded_pos (width n : Nat) : 1 ≤ (padded width n).length :=
  List.length_pos_iff.mpr (padded_ne_nil width n)

theorem length_padded_le (some : 0 < most) (narrow : width ≤ most) (fits : n < 10 ^ most) :
    (padded width n).length ≤ most := by
  have short := (Nat.length_toDigits_le_iff (by decide : 1 < 10) some).mpr fits
  rw [padded, List.length_append, List.length_replicate]
  omega

theorem ofDigitChars_padded (width n : Nat) : Nat.ofDigitChars 10 (padded width n) 0 = n := by
  rw [padded, Nat.ofDigitChars_append, Nat.ofDigitChars_replicate_zero, Nat.mul_zero, Nat.ofDigitChars_ten_toDigits]

theorem stripPrefix_digits (unsigned : '+' ∉ text) : stripPrefix ['+'] text = none := by
  cases stripped : stripPrefix ['+'] text with
  | none => rfl
  | some =>
    rw [stripPrefix_eq_some] at stripped
    exact absurd (by simp [stripped]) unsigned

/-- A number is read back from its decimals. -/
theorem parse_padded (fits : n < bound) : parseBelow bound (padded width n) = some n := by
  have digits : (padded width n).all Char.isDigit = true :=
    List.all_eq_true.mpr fun c member => isDigit_of_mem_padded member
  unfold parseBelow
  simp only [stripPrefix_digits (not_mem_padded (by decide)), Option.getD_none, ofDigitChars_padded]
  exact if_pos ⟨padded_ne_nil width n, digits, fits⟩

theorem ofDigitChars_lt (digits : ∀ c ∈ text, c.isDigit = true) :
    Nat.ofDigitChars 10 text 0 < 10 ^ text.length := by
  induction text with
  | nil => decide
  | cons c text ih =>
    have later := ih fun d member => digits d (List.mem_cons_of_mem _ member)
    have first := digits c List.mem_cons_self
    rw [Char.isDigit, Bool.and_eq_true, decide_eq_true_eq, decide_eq_true_eq] at first
    have high : c.toNat ≤ 57 := first.2
    have digit : c.toNat - '0'.toNat ≤ 9 := Nat.sub_le_of_le_add high
    rw [Nat.ofDigitChars_cons, Nat.ofDigitChars_eq_ofDigitChars_zero, List.length_cons, Nat.mul_zero, Nat.zero_add]
    calc 10 ^ text.length * (c.toNat - '0'.toNat) + Nat.ofDigitChars 10 text 0
        < 10 ^ text.length * (c.toNat - '0'.toNat) + 10 ^ text.length := Nat.add_lt_add_left later _
      _ = 10 ^ text.length * (c.toNat - '0'.toNat + 1) := (Nat.mul_succ ..).symm
      _ ≤ 10 ^ (text.length + 1) := by
        rw [Nat.pow_succ]
        exact Nat.mul_le_mul_left _ (Nat.succ_le_succ digit)

theorem parse_digits (filled : text ≠ []) (digits : ∀ c ∈ text, c.isDigit = true)
    (few : 10 ^ text.length ≤ bound) : parseBelow bound text = some (Nat.ofDigitChars 10 text 0) := by
  have fits : Nat.ofDigitChars 10 text 0 < bound := (ofDigitChars_lt digits).trans_le few
  have unsigned : '+' ∉ text := fun member => absurd (digits _ member) (by decide)
  unfold parseBelow
  simp only [stripPrefix_digits unsigned, Option.getD_none]
  exact if_pos ⟨filled, List.all_eq_true.mpr digits, fits⟩

theorem digits_of_parse (parsed : parseBelow bound text = some n) (unsigned : '+' ∉ text) :
    text ≠ [] ∧ ∀ c ∈ text, c.isDigit = true := by
  unfold parseBelow at parsed
  simp only [stripPrefix_digits unsigned, Option.getD_none] at parsed
  split at parsed
  · rename_i held
    exact ⟨held.1, List.all_eq_true.mp held.2.1⟩
  · cases parsed

theorem utf8Size_of_isDigit (digit : c.isDigit = true) : c.utf8Size = 1 := by
  rw [Char.isDigit, Bool.and_eq_true, decide_eq_true_eq, decide_eq_true_eq] at digit
  have high : c.val ≤ 57 := digit.2
  rw [Char.utf8Size, if_pos (UInt32.le_trans high (by decide))]

theorem isWhitespace_of_isDigit (digit : c.isDigit = true) : isWhitespace c = false := by
  rw [Char.isDigit, Bool.and_eq_true, decide_eq_true_eq, decide_eq_true_eq] at digit
  have low : 48 ≤ c.toNat := digit.1
  have high : c.toNat ≤ 57 := digit.2
  unfold isWhitespace
  simp only [Bool.or_eq_false_iff, Bool.and_eq_false_iff, decide_eq_false_iff_not]
  omega

theorem trimmed_digits (filled : text ≠ []) (digits : ∀ c ∈ text, c.isDigit = true) : Trimmed text :=
  trimmed_of_visible filled fun c member => isWhitespace_of_isDigit (digits c member)

end Duskcue.Decimals
