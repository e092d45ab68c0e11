import Mathlib.Tactic.Basic

/-! Events along the runs of a machine. `occurrences` counts the moves of a run at
which an event happens. An event that spends its chance, and cannot happen once
the chance is spent, happens at most once. `emitted` collects what the moves of
a run give out, and `Throughout` is a condition each of them meets. -/
namespace Duskcue

variable {σ μ : Type}

/-- The moves of a run at which the event happens. -/
def occurrences (next : σ → μ → σ) (event : σ → μ → Bool) : σ → List μ → Nat
  | _, [] => 0
  | state, move :: moves => (event state move).toNat + occurrences next event (next state move) moves

section
variable {next : σ → μ → σ} {event other : σ → μ → Bool} {inv : σ → Prop}

theorem occurrences_mono (kept : ∀ s m, inv s → inv (next s m))
    (implied : ∀ s m, inv s → event s m = true → other s m = true) (holds : inv s)
    (moves : List μ) : occurrences next event s moves ≤ occurrences next other s moves := by
  induction moves generalizing s with
  | nil => exact Nat.le_refl _
  | cons move _ ih =>
    have first : (event s move).toNat ≤ (other s move).toNat := by
      cases happens : event s move with
      | false => exact Nat.zero_le _
      | true => simp [implied s move holds happens]
    exact Nat.add_le_add first (ih (kept s move holds))

theorem occurrences_spent (spent : σ → Prop) (kept : ∀ s m, inv s → inv (next s m))
    (stays : ∀ s m, inv s → spent s → spent (next s m))
    (barred : ∀ s m, inv s → spent s → event s m = false) (holds : inv s) (gone : spent s)
    (moves : List μ) : occurrences next event s moves = 0 := by
  induction moves generalizing s with
  | nil => rfl
  | cons move _ ih =>
    rw [occurrences, barred s move holds gone, ih (kept s move holds) (stays s move holds gone)]
    rfl

/-- An event that spends its own chance happens at most once. -/
theorem occurrences_le_one (spent : σ → Prop) (kept : ∀ s m, inv s → inv (next s m))
    (stays : ∀ s m, inv s → spent s → spent (next s m)) (barred : ∀ s m, inv s → spent s → event s m = false)
    (spends : ∀ s m, inv s → event s m = true → spent (next s m)) (holds : inv s)
    (moves : List μ) : occurrences next event s moves ≤ 1 := by
  induction moves generalizing s with
  | nil => exact Nat.zero_le _
  | cons move _ ih =>
    cases happens : event s move with
    | false =>
      rw [occurrences, happens, Bool.toNat_false, Nat.zero_add]
      exact ih (kept s move holds)
    | true =>
      rw [occurrences, happens, occurrences_spent spent kept stays barred (kept s move holds)
        (spends s move holds happens)]
      exact Nat.le_refl _

end

/-- A condition that a run brings about comes about at one of its moves. -/
theorem exists_first {P : σ → Prop} {moves : List μ} (before : ¬ P s) (after : P (moves.foldl next s)) :
    ∃ earlier move later, moves = earlier ++ move :: later ∧ ¬ P (earlier.foldl next s) ∧
      P (next (earlier.foldl next s) move) := by
  induction moves generalizing s with
  | nil => exact (before after).elim
  | cons move moves ih =>
    by_cases now : P (next s move)
    · exact ⟨[], move, moves, rfl, before, now⟩
    · obtain ⟨earlier, first, later, rfl, unmet, met⟩ := ih now after
      exact ⟨move :: earlier, first, later, rfl, unmet, met⟩

/-! ## What a run gives out -/

/-- What the moves of a run give out, in order. -/
def emitted {ω : Type} (next : σ → μ → σ) (emit : σ → μ → List ω) : σ → List μ → List ω
  | _, [] => []
  | state, move :: moves => emit state move ++ emitted next emit (next state move) moves

/-- Every move of a run meets the condition, in the state it is made in. -/
def Throughout (next : σ → μ → σ) (condition : σ → μ → Prop) : σ → List μ → Prop
  | _, [] => True
  | state, move :: moves => condition state move ∧ Throughout next condition (next state move) moves

section
variable {ω : Type} {next : σ → μ → σ} {emit : σ → μ → List ω} {condition : σ → μ → Prop}

theorem emitted_append (s : σ) (left right : List μ) :
    emitted next emit s (left ++ right) =
      emitted next emit s left ++ emitted next emit (left.foldl next s) right := by
  induction left generalizing s with
  | nil => rfl
  | cons _ _ ih => simp [emitted, ih]

/-- A condition on states that each move keeps when it meets its own condition. -/
theorem Throughout.preserves {inv : σ → Prop} (kept : ∀ s m, condition s m → inv s → inv (next s m))
    (met : Throughout next condition s moves) (holds : inv s) :
    inv (moves.foldl next s) := by
  induction moves generalizing s with
  | nil => exact holds
  | cons move _ ih => exact ih met.2 (kept s move met.1 holds)

theorem Throughout.of_forall (all : ∀ s m, condition s m) : Throughout next condition s moves := by
  induction moves generalizing s with
  | nil => trivial
  | cons move _ ih => exact ⟨all s move, ih⟩

theorem Throughout.append_left (met : Throughout next condition s (left ++ right)) :
    Throughout next condition s left := by
  induction left generalizing s with
  | nil => trivial
  | cons _ _ ih => exact ⟨met.1, ih met.2⟩

theorem Throughout.append_right (met : Throughout next condition s (left ++ right)) :
    Throughout next condition (left.foldl next s) right := by
  induction left generalizing s with
  | nil => exact met
  | cons _ _ ih => exact ih met.2

/-- Where each move keeps a condition on states exactly when it meets its own condition, a run
keeps it exactly when all its moves do. -/
theorem throughout_iff {kept inv : σ → Prop} (keeps : ∀ s m, kept s → kept (next s m))
    (exactly : ∀ s m, kept s → inv s → (inv (next s m) ↔ condition s m)) {s : σ} (known : kept s) (holds : inv s)
    (moves : List μ) :
    (∀ earlier later, moves = earlier ++ later → inv (earlier.foldl next s)) ↔
      Throughout next condition s moves := by
  induction moves generalizing s with
  | nil =>
    refine ⟨fun _ => trivial, fun _ earlier later split => ?_⟩
    obtain ⟨rfl, -⟩ := List.append_eq_nil_iff.mp split.symm
    exact holds
  | cons move moves ih =>
    constructor
    · intro all
      have first : inv (next s move) := all [move] moves rfl
      refine ⟨(exactly s move known holds).mp first, (ih (keeps s move known) first).mp ?_⟩
      rintro earlier later rfl
      exact all (move :: earlier) later rfl
    · rintro ⟨now, rest⟩ earlier later split
      cases earlier with
      | nil => exact holds
      | cons _ earlier =>
        obtain ⟨rfl, rfl⟩ := List.cons.inj split
        have first := (exactly s move known holds).mpr now
        exact (ih (keeps s move known) first).mpr rest earlier later rfl

/-- The same where what is known besides is only kept as long as the moves meet their
condition. -/
theorem throughout_iff_of_sound {sound : σ → Prop} (inv : σ → Prop) (implies : ∀ s, sound s → inv s)
    (keeps : ∀ s m, sound s → condition s m → sound (next s m))
    (exactly : ∀ s m, sound s → inv (next s m) → condition s m) (holds : sound s) (moves : List μ) :
    (∀ earlier later, moves = earlier ++ later → inv (earlier.foldl next s)) ↔
      Throughout next condition s moves := by
  constructor
  · intro all
    induction moves generalizing s with
    | nil => trivial
    | cons move moves ih =>
      have now := exactly s move holds (all [move] moves rfl)
      refine ⟨now, ih (keeps s move holds now) ?_⟩
      rintro earlier later rfl
      exact all (move :: earlier) later rfl
  · rintro met earlier later rfl
    exact implies _ (met.append_left.preserves (fun s m condition sound => keeps s m sound condition) holds)

/-- An event happens no more often than a quantity it uses up allows, where every move
meets a condition. -/
theorem occurrences_le_potential {inv : σ → Prop} (potential : σ → Nat)
    (kept : ∀ s m, condition s m → inv s → inv (next s m))
    (spends : ∀ s m, condition s m → inv s → (event s m).toNat + potential (next s m) ≤ potential s)
    (holds : inv s) (met : Throughout next condition s moves) :
    occurrences next event s moves ≤ potential s := by
  induction moves generalizing s with
  | nil => exact Nat.zero_le _
  | cons move _ ih =>
    have later := ih (kept s move met.1 holds) met.2
    have now := spends s move met.1 holds
    rw [occurrences]
    omega

/-- The same for a quantity that every move uses up. -/
theorem occurrences_le_measure (measure : σ → Nat)
    (spends : ∀ s m, (event s m).toNat + measure (next s m) ≤ measure s) (s : σ) (moves : List μ) :
    occurrences next event s moves ≤ measure s :=
  occurrences_le_potential measure (fun _ _ (_ : True) (_ : True) => trivial) (fun s m _ _ => spends s m) trivial
    (.of_forall fun _ _ => trivial)

instance Throughout.decidable [∀ s m, Decidable (condition s m)] (s : σ) (moves : List μ) :
    Decidable (Throughout next condition s moves) :=
  match moves with
  | [] => inferInstanceAs (Decidable True)
  | move :: moves =>
    have := Throughout.decidable (next s move) moves
    inferInstanceAs (Decidable (condition s move ∧ Throughout next condition (next s move) moves))

end
end Duskcue
