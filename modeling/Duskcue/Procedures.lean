import Mathlib.Logic.Basic

/-! Procedures that share a store with others. A procedure asks for one operation after
the other, each of which may fail, and goes on with what it is answered: it may give the
error on or take it as a value. Between two of its operations anybody may move the
store. `Secure` is the rule of reliance and guarantee for such procedures: what a
procedure knows at an operation outlasts the moves of the others, and every operation it
comes to keeps the invariant they all share. -/
namespace Duskcue

/-- `Answer op` is what an operation gives. -/
inductive Procedure (Op : Type) (Answer : Op → Type) (ε α : Type)
  | done (value : α)
  | fail (error : ε)
  | perform (op : Op) (next : Except ε (Answer op) → Procedure Op Answer ε α)

namespace Procedure

variable {Op ι σ ε α β : Type} {Answer : Op → Type}

/-- The procedure, then what its outcome calls for. -/
def andThen : Procedure Op Answer ε α → (Except ε α → Procedure Op Answer ε β) → Procedure Op Answer ε β
  | done value, next => next (.ok value)
  | fail error, next => next (.error error)
  | perform op rest, next => perform op fun answer => (rest answer).andThen next

/-- An error ends the whole, as `?` does. -/
def orFail (next : α → Procedure Op Answer ε β) : Except ε α → Procedure Op Answer ε β
  | .ok value => next value
  | .error error => fail error

instance : Monad (Procedure Op Answer ε) where
  pure := done
  bind procedure next := procedure.andThen (orFail next)

/-- One operation. -/
def call (op : Op) : Procedure Op Answer ε (Answer op) := perform op (orFail done)

/-- The outcome as a value: the error does not end what follows. -/
def attempt (procedure : Procedure Op Answer ε α) : Procedure Op Answer ε (Except ε α) := procedure.andThen done

/-- `let _ = ...`. -/
def ignore (procedure : Procedure Op Answer ε α) : Procedure Op Answer ε Unit := procedure.andThen fun _ => done ()

/-- `effect` says what an operation does to the store, and how it is answered. -/
def advance (effect : (op : Op) → ι → σ → σ × Except ε (Answer op)) (input : ι) :
    Procedure Op Answer ε α → σ → σ × Procedure Op Answer ε α
  | done value, s => (s, done value)
  | fail error, s => (s, fail error)
  | perform op next, s => ((effect op input s).1, next (effect op input s).2)

/-! ## Reliance and guarantee -/

/-- What the moves of the others let stand. -/
def Stable (moves : σ → σ → Prop) (known : σ → Prop) : Prop := ∀ s s', moves s s' → known s → known s'

theorem stable_true : Stable moves fun _ => True := fun _ _ _ _ => trivial

/-- What a procedure and the others agree on: the moves the others may make, the invariant,
and the condition under which an operation has to keep it. -/
structure Agreement (Op ι σ : Type) where
  moves : σ → σ → Prop
  inv : σ → Prop
  clear : Op → ι → σ → Prop

variable {effect : (op : Op) → ι → σ → σ × Except ε (Answer op)} {agreed : Agreement Op ι σ}

/-- From what is known, the procedure keeps to the agreement and ends as `post` says. -/
def Secure (effect : (op : Op) → ι → σ → σ × Except ε (Answer op)) (agreed : Agreement Op ι σ)
    (post : Except ε α → σ → Prop) : Procedure Op Answer ε α → (σ → Prop) → Prop
  | done value, known => ∀ s, known s → post (.ok value) s
  | fail error, known => ∀ s, known s → post (.error error) s
  | perform op next, known => ∃ (held : σ → Prop) (later : Except ε (Answer op) → σ → Prop),
      (∀ s, known s → held s) ∧ Stable agreed.moves held ∧
      (∀ input s, agreed.inv s → held s → agreed.clear op input s →
        agreed.inv (effect op input s).1 ∧ later (effect op input s).2 (effect op input s).1) ∧
      ∀ answer, (next answer).Secure effect agreed post (later answer)

variable {procedure : Procedure Op Answer ε α} {known known' : σ → Prop} {post post' : Except ε α → σ → Prop}

theorem Secure.weaken (secure : procedure.Secure effect agreed post known) (less : ∀ s, known' s → known s) :
    procedure.Secure effect agreed post known' := by
  cases procedure with
  | done | fail => exact fun s holds => secure s (less s holds)
  | perform =>
    obtain ⟨held, later, holds, rest⟩ := secure
    exact ⟨held, later, fun s known => holds s (less s known), rest⟩

theorem Secure.mono (secure : procedure.Secure effect agreed post known)
    (more : ∀ outcome s, post outcome s → post' outcome s) : procedure.Secure effect agreed post' known := by
  induction procedure generalizing known with
  | done | fail => exact fun s holds => more _ s (secure s holds)
  | perform _ _ ih =>
    obtain ⟨held, later, holds, stable, kept, follows⟩ := secure
    exact ⟨held, later, holds, stable, kept, fun answer => ih answer (follows answer)⟩

theorem Secure.andThen {mid : Except ε α → σ → Prop} {post : Except ε β → σ → Prop}
    {next : Except ε α → Procedure Op Answer ε β} (secure : procedure.Secure effect agreed mid known)
    (rest : ∀ outcome, (next outcome).Secure effect agreed post (mid outcome)) :
    (procedure.andThen next).Secure effect agreed post known := by
  induction procedure generalizing known with
  | done value => exact (rest (.ok value)).weaken secure
  | fail error => exact (rest (.error error)).weaken secure
  | perform _ _ ih =>
    obtain ⟨held, later, holds, stable, kept, follows⟩ := secure
    exact ⟨held, later, holds, stable, kept, fun answer => ih answer (follows answer)⟩

theorem Secure.bind {post : Except ε β → σ → Prop} {next : α → Procedure Op Answer ε β} (mid : Except ε α → σ → Prop)
    (secure : procedure.Secure effect agreed mid known) (failed : ∀ error s, mid (.error error) s → post (.error error) s)
    (rest : ∀ value, (next value).Secure effect agreed post (mid (.ok value))) :
    (procedure >>= next).Secure effect agreed post known := by
  refine Secure.andThen secure fun outcome => ?_
  cases outcome with
  | error error => exact failed error
  | ok value => exact rest value

theorem Secure.call {op : Op} {post : Except ε (Answer op) → σ → Prop} (stable : Stable agreed.moves known)
    (kept : ∀ input s, agreed.inv s → known s → agreed.clear op input s →
      agreed.inv (effect op input s).1 ∧ post (effect op input s).2 (effect op input s).1) :
    (call op : Procedure Op Answer ε (Answer op)).Secure effect agreed post known := by
  refine ⟨known, post, fun s holds => holds, stable, kept, fun answer => ?_⟩
  cases answer <;> exact fun s holds => holds

theorem Secure.attempt (secure : procedure.Secure effect agreed post known) :
    procedure.attempt.Secure effect agreed (fun outcome s => ∃ tried, outcome = .ok tried ∧ post tried s) known :=
  secure.andThen fun outcome _ holds => ⟨outcome, rfl, holds⟩

theorem Secure.ignore (secure : procedure.Secure effect agreed (fun _ => after) known) :
    procedure.ignore.Secure effect agreed (fun _ => after) known :=
  secure.andThen fun _ _ holds => holds

/-- A loop over a list keeps what each of its rounds keeps. -/
theorem Secure.forEach {visit : β → Procedure Op Answer ε Unit} {post : Except ε Unit → σ → Prop}
    (known : List β → σ → Prop) (failed : ∀ xs error s, known xs s → post (.error error) s)
    (ended : ∀ s, known [] s → post (.ok ()) s)
    (round : ∀ x xs, (visit x).Secure effect agreed (fun _ => known xs) (known (x :: xs))) (xs : List β) :
    (xs.forM visit).Secure effect agreed post (known xs) := by
  induction xs with
  | nil => exact ended
  | cons x xs ih => exact Secure.bind _ (round x xs) (failed xs) fun _ => ih

/-! ## Running beside the others -/

/-- Somewhere on the way, with all that it relies on. -/
def Underway (effect : (op : Op) → ι → σ → σ × Except ε (Answer op)) (agreed : Agreement Op ι σ)
    (procedure : Procedure Op Answer ε α) (s : σ) : Prop :=
  ∃ known : σ → Prop, known s ∧ procedure.Secure effect agreed (fun _ _ => True) known

theorem Underway.moved (underway : procedure.Underway effect agreed s) (moved : agreed.moves s s') :
    procedure.Underway effect agreed s' := by
  obtain ⟨known, holds, secure⟩ := underway
  cases procedure with
  | done | fail => exact ⟨fun _ => True, trivial, fun _ _ => trivial⟩
  | perform =>
    obtain ⟨held, later, enough, stable, rest⟩ := secure
    exact ⟨held, stable s s' moved (enough s holds), held, later, fun _ held => held, stable, rest⟩

theorem Underway.advance (underway : procedure.Underway effect agreed s) (inv : agreed.inv s)
    (clear : ∀ op next, procedure = perform op next → agreed.clear op input s) :
    agreed.inv (procedure.advance effect input s).1 ∧
      (procedure.advance effect input s).2.Underway effect agreed (procedure.advance effect input s).1 := by
  obtain ⟨known, holds, secure⟩ := underway
  cases procedure with
  | done | fail => exact ⟨inv, known, holds, secure⟩
  | perform op next =>
    obtain ⟨held, later, enough, -, kept, follows⟩ := secure
    obtain ⟨safe, after⟩ := kept input s inv (enough s holds) (clear op next rfl)
    exact ⟨safe, later _, after, follows _⟩

end Procedure
end Duskcue
