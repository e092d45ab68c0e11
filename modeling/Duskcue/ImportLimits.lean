import Duskcue.Text

/-! The limits of an import, and what is left of its budget. -/
namespace Duskcue.Imports
open Text

/-- `ImportError`, as far as reading a feed and sealing what was read reach it. -/
inductive ImportError where
  | cancelled
  | deadline
  | format
  | limit
  | storage
  deriving DecidableEq

def mib : Nat := 1024 * 1024
/-- `PLAYLIST`. -/
def playlistLimit : Nat := 8 * mib
/-- `RECORD`. -/
def recordLimit : Nat := 4096
/-- `CHANNELS`. -/
def channelsLimit : Nat := 10000

/-- `Work`: each look at the token and at the clock is the next one. -/
structure Work where
  cancel : Nat → Bool
  expired : Nat → Bool
  looks : Nat
  plaintext : Nat
  ciphertext : Nat

/-- `Work::check`. -/
def Work.check (work : Work) : Except ImportError Work :=
  if work.cancel work.looks then .error .cancelled
  else if work.expired work.looks then .error .deadline
  else .ok { work with looks := work.looks + 1 }

/-- `Work::payload`. -/
def Work.payload (work : Work) (plain cipher : Nat) : Except ImportError Work := do
  let work ← work.check
  if 2 ^ 64 ≤ work.plaintext + plain || 2 ^ 64 ≤ work.ciphertext + cipher then throw .limit
  if 96 * mib < work.plaintext + plain || 144 * mib < work.ciphertext + cipher then throw .limit
  return { work with plaintext := work.plaintext + plain, ciphertext := work.ciphertext + cipher }

/-- `legal`. -/
def legal (c : Char) : Bool :=
  c = '\t' || c = '\n' || c = '\r' || (0x20 ≤ c.toNat && c.toNat ≤ 0xd7ff) || (0xe000 ≤ c.toNat && c.toNat ≤ 0xfffd) ||
    (0x10000 ≤ c.toNat && c.toNat ≤ 0x10ffff)

/-- `limits::text`. -/
def text (value : List Char) (max : Nat) : Except ImportError Unit :=
  if max < byteLength value || value.any (fun c => !legal c) then .error .limit else .ok ()

theorem bind_ok {α β : Type} {x : Except ImportError α} {f : α → Except ImportError β} {b : β} :
    (x >>= f) = .ok b ↔ ∃ a, x = .ok a ∧ f a = .ok b := by
  cases x with
  | error =>
    constructor
    · intro done
      cases done
    · rintro ⟨a, done, -⟩
      cases done
  | ok a =>
    constructor
    · intro done
      exact ⟨a, rfl, done⟩
    · rintro ⟨a, done, rest⟩
      cases done
      exact rest

/-- The import is neither cancelled nor late. -/
def Work.InTime (work : Work) : Prop := ∀ n, work.cancel n = false ∧ work.expired n = false

theorem Work.check_inTime {work : Work} (inTime : work.InTime) :
    work.check = .ok { work with looks := work.looks + 1 } := by
  unfold Work.check
  simp [inTime work.looks]

theorem Work.payload_inTime {work : Work} (inTime : work.InTime)
    (plaintext : work.plaintext + plain ≤ 96 * mib) (ciphertext : work.ciphertext + cipher ≤ 144 * mib) :
    work.payload plain cipher = .ok { work with
      looks := work.looks + 1
      plaintext := work.plaintext + plain
      ciphertext := work.ciphertext + cipher } := by
  have small : 144 * mib < 2 ^ 64 := by decide
  have fits : (decide (2 ^ 64 ≤ work.plaintext + plain) || decide (2 ^ 64 ≤ work.ciphertext + cipher)) = false := by
    simp only [Bool.or_eq_false_iff, decide_eq_false_iff_not]
    omega
  have within : (decide (96 * mib < work.plaintext + plain) || decide (144 * mib < work.ciphertext + cipher)) =
    false := by
    simp only [Bool.or_eq_false_iff, decide_eq_false_iff_not]
    omega
  unfold Work.payload
  rw [work.check_inTime inTime]
  show (if _ then _ else _) = _
  simp only [fits, within]
  rfl

theorem text_ok {max : Nat} :
    text value max = .ok () ↔ byteLength value ≤ max ∧ ∀ c ∈ value, legal c = true := by
  unfold text
  by_cases long : max < byteLength value
  · simp [long, Nat.not_le.mpr long]
  · by_cases other : value.any (fun c => !legal c) = true
    · simp only [other, Bool.or_true, if_true]
      simp only [List.any_eq_true, Bool.not_eq_true'] at other
      obtain ⟨c, member, bad⟩ := other
      simp only [reduceCtorEq, false_iff]
      rintro ⟨-, all⟩
      rw [all c member] at bad
      cases bad
    · have all : ∀ c ∈ value, legal c = true := by
        simpa using other
      simp only [long, other]
      simpa [Nat.not_lt.mp long] using all

end Duskcue.Imports
