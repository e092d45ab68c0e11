import Mathlib.Logic.Relation

/-! Transactions over a state. A transaction reads and writes a state and may
stop with an error; an error leaves the state as it was. `Yields` is one
successful execution, and its lemmas take an execution apart into those of its
statements. `Within` bounds every successful execution by a step relation: a
rule for each way of composing statements, and none for what they do. -/
namespace Duskcue

/-- Statements over a state `σ` that may raise an error `ε`. -/
abbrev Transaction (σ ε : Type) : Type → Type := StateT σ (Except ε)

/-- What may fail succeeds only where its first part does. -/
theorem bind_ok {α β ε : Type} {x : Except ε α} {f : α → Except ε β} {result : β}
    (ran : (x >>= f) = .ok result) : ∃ a, x = .ok a ∧ f a = .ok result := by
  cases x with
  | error => cases ran
  | ok a => exact ⟨a, rfl, ran⟩

/-- What may fail fails in one of its two parts. -/
theorem bind_error {α β ε : Type} {x : Except ε α} {f : α → Except ε β} {error : ε}
    (ran : (x >>= f) = .error error) : x = .error error ∨ ∃ a, x = .ok a ∧ f a = .error error := by
  cases x with
  | error =>
    cases ran
    exact .inl rfl
  | ok a => exact .inr ⟨a, rfl, ran⟩

namespace Transaction

variable {σ ε α β : Type}

/-- One successful execution of `tx`. -/
def Yields (tx : Transaction σ ε α) (before : σ) (value : α) (after : σ) : Prop :=
  tx.run before = .ok (value, after)

/-- Continue only if the condition holds. -/
def ensure (condition : Bool) (error : ε) : Transaction σ ε Unit :=
  if condition then pure () else throw error

/-- Continue with a value that has to be there. -/
def demand (value : Option α) (error : ε) : Transaction σ ε α :=
  match value with
  | some value => pure value
  | none => throw error

/-- One statement for each element, in order. -/
def forEach (visit : β → Transaction σ ε Unit) : List β → Transaction σ ε Unit
  | [] => pure ()
  | x :: xs => do
    visit x
    forEach visit xs

/-- A committed execution keeps its writes; a failed one is rolled back. -/
def settle (tx : Transaction σ ε α) (state : σ) : Except ε α × σ :=
  match tx.run state with
  | .ok (value, after) => (.ok value, after)
  | .error error => (.error error, state)

variable {tx : Transaction σ ε α} {next : α → Transaction σ ε β} {s s' : σ} {a : α} {b : β} {e : ε}

@[simp] theorem yields_pure : Yields (pure b : Transaction σ ε β) s b' s' ↔ b' = b ∧ s' = s := by
  rw [Yields, StateT.run_pure]
  simp [pure, Except.pure, eq_comm]

@[simp] theorem yields_throw : ¬ Yields (throw e : Transaction σ ε α) s a s' := by
  simp [Yields, throw, throwThe, MonadExceptOf.throw, StateT.run, StateT.lift, bind, Except.bind]

@[simp] theorem yields_bind :
    Yields (tx >>= next) s b s' ↔ ∃ a middle, Yields tx s a middle ∧ Yields (next a) middle b s' := by
  simp only [Yields, StateT.run_bind]
  cases ran : tx.run s with
  | error => simp [bind, Except.bind]
  | ok reply =>
    obtain ⟨value, middle⟩ := reply
    constructor
    · intro continued
      exact ⟨value, middle, rfl, continued⟩
    · rintro ⟨a, m, first, continued⟩
      cases first
      exact continued

@[simp] theorem yields_map : Yields (f <$> tx) s b s' ↔ ∃ a, Yields tx s a s' ∧ b = f a := by
  rw [map_eq_pure_bind, yields_bind]
  simp only [yields_pure]
  constructor
  · rintro ⟨a, middle, ran, rfl, rfl⟩
    exact ⟨a, ran, rfl⟩
  · rintro ⟨a, ran, rfl⟩
    exact ⟨a, s', ran, rfl, rfl⟩

@[simp] theorem yields_get : Yields (get : Transaction σ ε σ) s t s' ↔ t = s ∧ s' = s := by
  simp [Yields, get, getThe, MonadStateOf.get, StateT.run, StateT.get, pure, Except.pure, eq_comm]

@[simp] theorem yields_set : Yields (set t : Transaction σ ε PUnit) s v s' ↔ s' = t := by
  rw [Yields, StateT.run_set]
  simp [pure, Except.pure, eq_comm]

@[simp] theorem yields_modify : Yields (modify f : Transaction σ ε PUnit) s u s' ↔ s' = f s := by
  rw [Yields, StateT.run_modify]
  simp [pure, Except.pure, eq_comm]

@[simp] theorem yields_ensure :
    Yields (ensure condition e : Transaction σ ε Unit) s u s' ↔ condition = true ∧ s' = s := by
  unfold ensure
  split <;> simp_all

@[simp] theorem yields_demand :
    Yields (demand value e : Transaction σ ε α) s a s' ↔ value = some a ∧ s' = s := by
  cases value <;> simp [demand, eq_comm]

/-! The same, for the first statement of a sequence. -/

@[simp] theorem yields_pure_bind {next : β → Transaction σ ε α} :
    Yields (pure b >>= next) s a s' ↔ Yields (next b) s a s' := by
  rw [pure_bind]

@[simp] theorem yields_get_bind {next : σ → Transaction σ ε α} :
    Yields (get >>= next) s a s' ↔ Yields (next s) s a s' := by
  simp [and_assoc]

@[simp] theorem yields_modify_bind {next : PUnit → Transaction σ ε α} :
    Yields (modify f >>= next) s a s' ↔ Yields (next ⟨⟩) (f s) a s' := by
  simp only [yields_bind, yields_modify]
  exact ⟨fun ⟨_, _, same, ran⟩ => same ▸ ran, fun ran => ⟨⟨⟩, _, rfl, ran⟩⟩

@[simp] theorem yields_ensure_bind {next : Unit → Transaction σ ε α} :
    Yields (ensure condition e >>= next) s a s' ↔ condition = true ∧ Yields (next ()) s a s' := by
  simp only [yields_bind, yields_ensure]
  exact ⟨fun ⟨_, _, ⟨holds, same⟩, ran⟩ => ⟨holds, same ▸ ran⟩,
    fun ⟨holds, ran⟩ => ⟨(), s, ⟨holds, rfl⟩, ran⟩⟩

@[simp] theorem yields_demand_bind {next : β → Transaction σ ε α} :
    Yields (demand value e >>= next) s a s' ↔ ∃ b, value = some b ∧ Yields (next b) s a s' := by
  simp [and_assoc]

theorem yields_ite {condition : Prop} [Decidable condition] :
    Yields (if condition then left else right) s a s' ↔
      condition ∧ Yields left s a s' ∨ ¬condition ∧ Yields right s a s' := by
  split <;> simp_all

theorem forEach_preserves (inv : σ → Prop) (each : ∀ x ∈ xs, ∀ s u s', Yields (visit x) s u s' → inv s → inv s')
    (ran : Yields (forEach visit xs) s u s') (holds : inv s) : inv s' := by
  induction xs generalizing s with
  | nil =>
    obtain ⟨-, rfl⟩ := yields_pure.mp ran
    exact holds
  | cons x _ ih =>
    obtain ⟨_, middle, first, rest⟩ := yields_bind.mp ran
    refine ih (fun y member => each y (by simp [member])) rest ?_
    exact each x (by simp) _ _ _ first holds

/-- A loop leaves the condition of every element, when under an invariant each visit
brings about that of its own and keeps the others. -/
theorem forEach_establishes (inv : σ → Prop) (done : β → σ → Prop)
    (stays : ∀ x ∈ xs, ∀ s u s', Yields (visit x) s u s' → inv s → inv s')
    (each : ∀ x ∈ xs, ∀ s u s', Yields (visit x) s u s' → inv s → done x s')
    (kept : ∀ x ∈ xs, ∀ y s u s', Yields (visit x) s u s' → inv s → done y s → done y s')
    (ran : Yields (forEach visit xs) s u s') (holds : inv s) : ∀ x ∈ xs, done x s' := by
  induction xs generalizing s with
  | nil => simp
  | cons x _ ih =>
    obtain ⟨_, middle, first, rest⟩ := yields_bind.mp ran
    have held : inv middle := stays x (by simp) _ _ _ first holds
    intro y member
    rcases List.mem_cons.mp member with rfl | member
    · have both := forEach_preserves (fun s => inv s ∧ done y s)
        (fun z there s u s' visited ⟨held, done⟩ => ⟨stays z (by simp [there]) s u s' visited held,
          kept z (by simp [there]) y s u s' visited held done⟩)
        rest ⟨held, each y (by simp) _ _ _ first holds⟩
      exact both.2
    · exact ih (fun z there => stays z (by simp [there])) (fun z there => each z (by simp [there]))
        (fun z there => kept z (by simp [there])) rest held y member

/-- Rollback: an error keeps the state the transaction started from. -/
theorem settle_cases (tx : Transaction σ ε α) (s : σ) :
    (∃ a s', Yields tx s a s' ∧ settle tx s = (.ok a, s')) ∨
      ∃ e, tx.run s = .error e ∧ settle tx s = (.error e, s) := by
  unfold settle Yields
  cases ran : tx.run s with
  | error e => exact .inr ⟨e, rfl, rfl⟩
  | ok reply => exact .inl ⟨reply.1, reply.2, rfl, rfl⟩

/-! ## Bounding executions by a step relation -/

open Relation

variable {step : σ → σ → Prop}

/-- Every successful execution is a sequence of steps. -/
def Within (step : σ → σ → Prop) (tx : Transaction σ ε α) : Prop :=
  ∀ s a s', Yields tx s a s' → ReflTransGen step s s'

theorem Within.pure : Within step (pure a : Transaction σ ε α) := by
  intro s b s' ran
  rw [(yields_pure.mp ran).2]

theorem Within.bind (first : Within step tx) (rest : ∀ a, Within step (next a)) :
    Within step (tx >>= next) := by
  intro s b s' ran
  obtain ⟨a, middle, ran, continued⟩ := yields_bind.mp ran
  exact (first s a middle ran).trans (rest a middle b s' continued)

/-- A transaction that only reads takes no step, and its answer is at hand for
what follows. -/
theorem Within.reads (unchanged : ∀ s a s', Yields tx s a s' → s' = s) : Within step tx := by
  intro s a s' ran
  rw [unchanged s a s' ran]

theorem Within.get : Within step (get : Transaction σ ε σ) :=
  .reads fun _ _ _ ran => (yields_get.mp ran).2

theorem Within.ensure : Within step (ensure condition e : Transaction σ ε Unit) :=
  .reads fun _ _ _ ran => (yields_ensure.mp ran).2

theorem Within.demand : Within step (demand value e : Transaction σ ε α) :=
  .reads fun _ _ _ ran => (yields_demand.mp ran).2

theorem Within.ite {condition : Prop} [Decidable condition]
    (holds : condition → Within step left) (fails : ¬condition → Within step right) :
    Within step (if condition then left else right) := by
  split
  · exact holds ‹_›
  · exact fails ‹_›

theorem Within.forEach (xs : List β) (each : ∀ x ∈ xs, Within step (visit x)) : Within step (forEach visit xs) := by
  induction xs with
  | nil => exact .pure
  | cons x _ ih =>
    exact .bind (each x (by simp)) fun _ => ih fun y member => each y (by simp [member])

theorem Within.preserves {inv : σ → Prop} (within : Within step tx)
    (kept : ∀ s s', step s s' → inv s → inv s') (ran : Yields tx s a s') (holds : inv s) :
    inv s' := by
  have steps := within s a s' ran
  clear ran
  induction steps with
  | refl => exact holds
  | tail _ last ih => exact kept _ _ last ih

/-! ## Errors -/

/-- A first statement that succeeds leaves the rest to decide. -/
theorem run_bind_of_yields (first : Yields tx s a s') : (tx >>= next).run s = (next a).run s' := by
  rw [StateT.run_bind, show tx.run s = .ok (a, s') from first]
  rfl

theorem run_bind_of_error (failed : tx.run s = .error e) : (tx >>= next).run s = .error e := by
  rw [StateT.run_bind, failed]
  rfl

/-- Every error `tx` can end with is allowed. -/
def Raises (allowed : ε → Prop) (tx : Transaction σ ε α) : Prop :=
  ∀ s e, tx.run s = .error e → allowed e

section
variable {allowed wider : ε → Prop}

theorem Raises.mono (raises : Raises allowed tx) (le : ∀ e, allowed e → wider e) : Raises wider tx :=
  fun s e failed => le e (raises s e failed)

theorem Raises.of_succeeds (succeeds : ∀ s, ∃ a s', Yields tx s a s') : Raises allowed tx := by
  intro s e failed
  obtain ⟨a, s', ran⟩ := succeeds s
  cases ran.symm.trans failed

theorem Raises.pure : Raises allowed (pure a : Transaction σ ε α) :=
  .of_succeeds fun s => ⟨a, s, yields_pure.mpr ⟨rfl, rfl⟩⟩

theorem Raises.get : Raises allowed (get : Transaction σ ε σ) :=
  .of_succeeds fun s => ⟨s, s, yields_get.mpr ⟨rfl, rfl⟩⟩

theorem Raises.modify : Raises allowed (modify f : Transaction σ ε PUnit) :=
  .of_succeeds fun s => ⟨⟨⟩, f s, yields_modify.mpr rfl⟩

theorem Raises.throw (holds : allowed e) : Raises allowed (throw e : Transaction σ ε α) := by
  intro s raised failed
  cases failed
  exact holds

theorem Raises.bind (first : Raises allowed tx) (rest : ∀ a, Raises allowed (next a)) :
    Raises allowed (tx >>= next) := by
  intro s e failed
  cases ran : tx.run s with
  | error raised =>
    rw [run_bind_of_error ran] at failed
    exact Except.error.inj failed ▸ first s raised ran
  | ok reply =>
    rw [run_bind_of_yields ran] at failed
    exact rest reply.1 reply.2 e failed

theorem Raises.ensure (holds : allowed e) : Raises allowed (ensure condition e : Transaction σ ε Unit) := by
  unfold Transaction.ensure
  split
  · exact .pure
  · exact .throw holds

theorem Raises.demand (holds : allowed e) : Raises allowed (demand value e : Transaction σ ε α) := by
  cases value with
  | none => exact .throw holds
  | some => exact .pure

theorem Raises.ite {condition : Prop} [Decidable condition]
    (holds : Raises allowed left) (fails : Raises allowed right) :
    Raises allowed (if condition then left else right) := by
  split
  · exact holds
  · exact fails

end

/-! ## Success -/

/-- `tx` succeeds from `s`, with an answer and a state the condition holds of. -/
def Succeeds (tx : Transaction σ ε α) (s : σ) (post : α → σ → Prop) : Prop :=
  ∃ a s', Yields tx s a s' ∧ post a s'

section
variable {post middle : α → σ → Prop} {final : β → σ → Prop}

theorem Succeeds.pure (holds : post a s) : Succeeds (pure a : Transaction σ ε α) s post :=
  ⟨a, s, yields_pure.mpr ⟨rfl, rfl⟩, holds⟩

theorem Succeeds.bind (first : Succeeds tx s middle)
    (rest : ∀ a t, Yields tx s a t → middle a t → Succeeds (next a) t final) :
    Succeeds (tx >>= next) s final := by
  obtain ⟨a, t, ran, held⟩ := first
  obtain ⟨b, s', continued, holds⟩ := rest a t ran held
  exact ⟨b, s', yields_bind.mpr ⟨a, t, ran, continued⟩, holds⟩

theorem Succeeds.get_bind {next : σ → Transaction σ ε β} (rest : Succeeds (next s) s final) :
    Succeeds (get >>= next) s final := by
  obtain ⟨b, s', ran, holds⟩ := rest
  exact ⟨b, s', yields_get_bind.mpr ran, holds⟩

theorem Succeeds.modify_bind {next : PUnit → Transaction σ ε β}
    (rest : Succeeds (next ⟨⟩) (f s) final) : Succeeds (modify f >>= next) s final := by
  obtain ⟨b, s', ran, holds⟩ := rest
  exact ⟨b, s', yields_modify_bind.mpr ran, holds⟩

theorem Succeeds.ensure_bind {next : Unit → Transaction σ ε β} (met : condition = true)
    (rest : Succeeds (next ()) s final) : Succeeds (ensure condition e >>= next) s final := by
  obtain ⟨b, s', ran, holds⟩ := rest
  exact ⟨b, s', yields_ensure_bind.mpr ⟨met, ran⟩, holds⟩

theorem Succeeds.demand_bind (there : value = some a) (rest : Succeeds (next a) s final) :
    Succeeds (demand value e >>= next) s final := by
  obtain ⟨b, s', ran, holds⟩ := rest
  exact ⟨b, s', yields_demand_bind.mpr ⟨a, there, ran⟩, holds⟩

end

/-! ## Errors a transaction is spared -/

/-- From `s`, `tx` ends with no error of `bad`, and where it succeeds the condition holds. -/
def Spares (bad : ε → Prop) (tx : Transaction σ ε α) (s : σ) (post : α → σ → Prop) : Prop :=
  (∀ e, tx.run s = .error e → ¬ bad e) ∧ ∀ a s', Yields tx s a s' → post a s'

section
variable {bad : ε → Prop} {post middle : α → σ → Prop} {final : β → σ → Prop}

theorem Spares.mono (spares : Spares bad tx s middle) (le : ∀ a s', middle a s' → post a s') :
    Spares bad tx s post :=
  ⟨spares.1, fun a s' ran => le a s' (spares.2 a s' ran)⟩

/-- The execution itself is at hand for what follows. -/
theorem Spares.yields (spares : Spares bad tx s post) :
    Spares bad tx s fun a s' => Yields tx s a s' ∧ post a s' :=
  ⟨spares.1, fun a s' ran => ⟨ran, spares.2 a s' ran⟩⟩

theorem Spares.of_raises (raises : Raises (fun e => ¬ bad e) tx) : Spares bad tx s (Yields tx s) :=
  ⟨fun e failed => raises s e failed, fun _ _ ran => ran⟩

theorem Spares.pure (holds : post a s) : Spares bad (pure a : Transaction σ ε α) s post := by
  refine ⟨fun e failed => ?_, fun b s' ran => ?_⟩
  · cases failed
  · obtain ⟨rfl, rfl⟩ := yields_pure.mp ran
    exact holds

theorem Spares.bind (first : Spares bad tx s middle)
    (rest : ∀ a t, middle a t → Spares bad (next a) t final) : Spares bad (tx >>= next) s final := by
  refine ⟨fun e failed => ?_, fun b s' ran => ?_⟩
  · cases ran : tx.run s with
    | error raised =>
      rw [run_bind_of_error ran] at failed
      exact Except.error.inj failed ▸ first.1 raised ran
    | ok reply =>
      rw [run_bind_of_yields ran] at failed
      exact (rest reply.1 reply.2 (first.2 _ _ ran)).1 e failed
  · obtain ⟨a, t, before, after⟩ := yields_bind.mp ran
    exact (rest a t (first.2 a t before)).2 b s' after

theorem Spares.get_bind {next : σ → Transaction σ ε β} (rest : Spares bad (next s) s final) :
    Spares bad (get >>= next) s final := by
  refine .bind (.of_raises .get) fun t s' read => ?_
  obtain ⟨rfl, rfl⟩ := yields_get.mp read
  exact rest

theorem Spares.modify {post : PUnit → σ → Prop} (holds : post ⟨⟩ (f s)) :
    Spares bad (modify f : Transaction σ ε PUnit) s post := by
  refine Spares.mono (.of_raises .modify) fun _ s' wrote => ?_
  rw [yields_modify.mp wrote]
  exact holds

/-- A check whose error is not among the bad ones may fail; any other has to hold. -/
theorem Spares.ensure {post : Unit → σ → Prop} (met : condition = true ∨ ¬ bad e)
    (holds : condition = true → post () s) :
    Spares bad (ensure condition e : Transaction σ ε Unit) s post := by
  cases condition with
  | true => exact .pure (holds rfl)
  | false =>
    refine ⟨fun raised failed => ?_, fun _ _ ran => (yields_throw ran).elim⟩
    cases failed
    exact met.resolve_left (by simp)

theorem Spares.demand (harmless : ¬ bad e) (holds : ∀ b, value = some b → post b s) :
    Spares bad (demand value e : Transaction σ ε α) s post := by
  cases value with
  | some b => exact .pure (holds b rfl)
  | none =>
    refine ⟨fun raised failed => ?_, fun _ _ ran => (yields_throw ran).elim⟩
    cases failed
    exact harmless

theorem Spares.ite {condition : Prop} [Decidable condition]
    (holds : condition → Spares bad left s post) (fails : ¬condition → Spares bad right s post) :
    Spares bad (if condition then left else right) s post := by
  split
  · exact holds ‹_›
  · exact fails ‹_›

theorem Spares.forEach (inv : σ → Prop)
    (each : ∀ x ∈ xs, ∀ t, inv t → Spares bad (visit x) t fun _ s' => inv s') (holds : inv s) :
    Spares bad (forEach visit xs) s fun _ s' => inv s' := by
  induction xs generalizing s with
  | nil => exact .pure holds
  | cons x _ ih =>
    refine .bind (each x (by simp) s holds) fun _ t kept => ?_
    exact ih (fun y member => each y (by simp [member])) kept

end

end Transaction
end Duskcue
