import Duskcue.SystemSteps
import Duskcue.Trace

/-! A request identity is admitted at most once. What an insert needs of an
identity is lost with the insert and never comes back: an intent that is
promoted or fenced is never promoted again, and an identity without rows is
below the cutoff. -/
namespace Duskcue.Playback
open Transaction

variable {id : Uuid} {sys : System} {s : Store}

/-- No reservation can be inserted for the identity any more. -/
structure Barred (id : Uuid) (s : Store) : Prop where
  used : ∀ i, s.intents.find id = some i → i.promoted = true ∨ i.admissionFenced = true
  known : (s.intents.find id).isSome = true ∨ (s.reservations.find id).isSome = true ∨
    ¬ Timely s.retention.cutoff id

theorem Timely.lower (timely : Timely high id) (le : low ≤ high) : Timely low id := by
  obtain ⟨time, stamped, later⟩ := timely
  exact ⟨time, stamped, le.trans later⟩

theorem Barred.step {s' : Store} (barred : Barred id s) (step : Step s s') : Barred id s' := by
  obtain ⟨used, known⟩ := barred
  cases step with
  | raise later => exact ⟨used, known.imp_right fun k => k.imp_right fun e t => e (t.lower later)⟩
  | reserve admission _ timely later =>
    have absent := admission.absent
    refine ⟨used, ?_⟩
    rcases known with there | there | expired
    · exact .inl there
    · exact .inr (.inl (by grind))
    · exact .inr (.inr fun timely => expired (timely.lower later))
  | promote | forget =>
    constructor <;> grind
  | revise =>
    exact ⟨used, by grind⟩
  | release _ _ settles =>
    rcases settles with ⟨-, rfl⟩ | ⟨before, after, _, _, fenced, rfl⟩
    · exact ⟨used, by grind⟩
    · constructor <;> grind
  | expire _ _ _ _ _ account =>
    obtain ⟨-, rfl⟩ | ⟨-, -, -, rfl⟩ := account <;> constructor <;> grind
  | intend _ _ timely later =>
    refine ⟨by grind, ?_⟩
    rcases known with there | there | expired
    · exact .inl (by grind)
    · exact .inr (.inl there)
    · exact .inr (.inr fun timely => expired (timely.lower later))
  | amend _ amendment =>
    obtain ⟨-, fenced, -, -, -, -, -⟩ := amendment
    constructor <;> grind
  | _ => exact ⟨used, known⟩

/-- A barred identity that is not there stays away. -/
theorem Barred.absent {s' : Store} (barred : Barred id s) (step : Step s s')
    (absent : s.reservations.find id = none) : s'.reservations.find id = none := by
  obtain ⟨used, known⟩ := barred
  cases step with
  | reserve | promote | expire => grind
  | revise revision | release revision =>
    have := revision.found
    grind
  | _ => exact absent

theorem barred_invariant (id : Uuid) : Invariant (Barred id) :=
  .of_steps (fun _ _ _ step barred => barred.step step) fun _ _ _ barred => ⟨barred.used, barred.known⟩

theorem barred_absent_invariant (id : Uuid) : Invariant fun s => Barred id s ∧ s.reservations.find id = none :=
  .of_steps (fun _ _ _ step holds => ⟨holds.1.step step, holds.1.absent step holds.2⟩)
    fun _ _ _ holds => ⟨⟨holds.1.used, holds.1.known⟩, holds.2⟩

/-- The intent of an admitted identity is promoted. -/
def Promotions (s : Store) : Prop :=
  ∀ id i, (s.reservations.find id).isSome = true → s.intents.find id = some i → i.promoted = true

theorem promotions_invariant : Invariant Promotions := by
  refine .of_steps (fun s s' _ step promotions => ?_) fun _ _ _ promotions => promotions
  unfold Promotions at promotions ⊢
  cases step with
  | reserve | promote | expire | intend | amend | forget => grind
  | revise revision =>
    have := revision.found
    grind
  | release revision _ settles =>
    have := revision.found
    rcases settles with ⟨-, rfl⟩ | ⟨before, after, found, ⟨-, -, -, kept, -, -, -⟩, _, rfl⟩ <;> grind
  | _ => exact promotions

theorem Promotions.barred (promotions : Promotions s)
    (admitted : (s.reservations.find id).isSome = true) : Barred id s :=
  ⟨fun i found => .inl (promotions id i admitted found), .inr (.inl admitted)⟩

/-! ## Insertions along a run -/

section
variable (digest : ConfigurationResponse → Option String)

/-- Whether the transaction of a move inserts a reservation for the identity. -/
def inserts (id : Uuid) (sys : System) (move : Move) : Bool :=
  (sys.store.reservations.find id).isNone &&
    ((next digest sys move).store.reservations.find id).isSome

/-- A receipt that reports the identity as newly admitted. -/
def Reply.freshFor (id : Uuid) : Reply → Bool
  | .receipt made => made.fresh && made.id = id
  | _ => false

/-- Whether a move is answered with a fresh receipt for the identity. -/
def answersFresh (id : Uuid) (sys : System) (move : Move) : Bool :=
  (step digest sys move).1.freshFor id

end

variable {digest : ConfigurationResponse → Option String}

/-- A transaction whose answer is not a fresh receipt. -/
theorem perform_stale {α : Type} {tx : Tx α} {reply : α → Reply}
    (stale : ∀ a s', Yields tx sys.store a s' → (reply a).freshFor id = false) :
    (sys.perform tx reply).1.freshFor id = false := by
  rcases attempt_cases sys tx reply fun _ works => works with ⟨a, s', ran, eq⟩ | ⟨failure, -, eq⟩
  · rw [System.perform, eq]
    exact stale a s' ran
  · rw [System.perform, eq]
    rfl

theorem advance_stale {phase next : Phase} : (sys.advance operation phase next tx).1.freshFor id = false := by
  unfold System.advance
  split
  · rfl
  · split
    · rename_i work found arrived
      rcases attempt_cases sys (tx work) (fun _ => .done) fun _ works =>
        works.put operation { work with phase := next } with ⟨a, s', ran, eq⟩ | ⟨failure, -, eq⟩
      · rw [eq]
        rfl
      · rw [eq]
        rfl
    · rfl

theorem freshFor_inserts {action : Action} (fresh : (act digest sys action).1.freshFor id = true) :
    sys.store.reservations.find id = none ∧
      ((act digest sys action).2.store.reservations.find id).isSome = true := by
  cases action with
  | claim instanceId request insert binding authority =>
    rcases attempt_cases sys (claim instanceId request insert binding authority) .receipt
      fun _ works => works with ⟨receipt, s', ran, eq⟩ | ⟨failure, -, eq⟩
    · rw [act, System.perform, eq] at fresh ⊢
      simp only [Reply.freshFor, Bool.and_eq_true, decide_eq_true_eq] at fresh
      obtain ⟨-, named, inserted⟩ := claim_commits ran
      rw [← fresh.2, named]
      obtain ⟨absent, granted⟩ := inserted fresh.1
      obtain ⟨row, stored, -⟩ := granted.stored
      exact ⟨absent, by simp [stored]⟩
    · rw [act, System.perform, eq] at fresh
      cases fresh
  | check =>
    rw [act, perform_stale] at fresh
    · cases fresh
    · intro receipt s' ran
      simp [Reply.freshFor, (check_commits ran).2.1]
  | accept instanceId request binding authority target input process =>
    rcases attempt_cases sys (accept digest instanceId request binding authority target input process)
      _ _ with ⟨reply, s', ran, eq⟩ | ⟨failure, -, eq⟩ <;> rw [act, eq] at fresh <;> cases fresh
  | executeRetiring | executePreparing | executeFailed =>
    rw [act, advance_stale] at fresh
    cases fresh
  | _ =>
    rw [act, perform_stale fun _ _ _ => rfl] at fresh
    cases fresh

/-- No move inserts a reservation for a barred identity. -/
theorem Barred.never (barred : Barred id sys.store) (sound : Sound sys)
    (move : Move) : inserts digest id sys move = false := by
  by_contra happens
  simp only [inserts, Bool.not_eq_false, Bool.and_eq_true, Option.isNone_iff_eq_none] at happens
  have absent : (next digest sys move).store.reservations.find id = none :=
    ((barred_absent_invariant id).next sound ⟨barred, happens.1⟩ move).2
  rw [absent] at happens
  cases happens.2

/-- What the count of insertions rests on. -/
structure Admissible (sys : System) : Prop where
  sound : Sound sys
  promotions : Promotions sys.store

theorem Admissible.next (admissible : Admissible sys) (move : Move) : Admissible (next digest sys move) :=
  ⟨(next_advances admissible.sound move).sound,
    promotions_invariant.next admissible.sound admissible.promotions move⟩

theorem admissible_deployed (now : Time) : Admissible (.deployed now) :=
  ⟨sound_deployed now, by simp [Promotions, System.deployed, Store.migrated]⟩

/-- Over a whole run an identity is inserted at most once, and at most one receipt
calls it fresh. -/
theorem reservation_inserted_once (digest : ConfigurationResponse → Option String) (now : Time)
    (moves : List Move) (id : Uuid) :
    occurrences (next digest) (inserts digest id) (.deployed now) moves ≤ 1 ∧
      occurrences (next digest) (answersFresh digest id) (.deployed now) moves ≤ 1 := by
  have kept : ∀ sys move, Admissible sys → Admissible (next digest sys move) :=
    fun _ move admissible => admissible.next move
  have once : occurrences (next digest) (inserts digest id) (.deployed now) moves ≤ 1 := by
    refine occurrences_le_one (fun sys => Barred id sys.store) kept ?_ ?_ ?_ (admissible_deployed now) moves
    · exact fun sys move admissible barred => (barred_invariant id).next admissible.sound barred move
    · exact fun sys move admissible barred => barred.never admissible.sound move
    · intro sys move admissible happens
      simp only [inserts, Bool.and_eq_true] at happens
      exact (admissible.next move).promotions.barred happens.2
  refine ⟨once, (occurrences_mono kept ?_ (admissible_deployed now) moves).trans once⟩
  intro sys move admissible fresh
  obtain ⟨absent, there⟩ := freshFor_inserts fresh
  exact Bool.and_eq_true_iff.mpr ⟨Option.isNone_iff_eq_none.mpr absent, there⟩

end Duskcue.Playback
