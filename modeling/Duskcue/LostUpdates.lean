import Mathlib.Data.Finset.Basic
import Duskcue.Statements

/-! Requests side by side, statement by statement, over one value. A writer reads the value and later puts another in
its place; what is written in between is lost. `stored` below is whose writes a value still holds. -/
namespace Duskcue.Statements

variable {ι σ ℓ ε : Type} [DecidableEq ι]

/-- The next statement is one that comes next in one of the requests, and none is refused. -/
inductive Interleaves : (ι → Statements σ ℓ ε Unit) → σ → List ℓ → (ι → Statements σ ℓ ε Unit) → σ → Prop
  | nil (requests : ι → Statements σ ℓ ε Unit) (s : σ) : Interleaves requests s [] requests s
  | step {requests rest : ι → Statements σ ℓ ε Unit} {s after last : σ} {label : ℓ} {labels : List ℓ}
      {effect : σ → Except ε σ} {next : σ → Statements σ ℓ ε Unit} (i : ι) (here : requests i = .send label effect next)
      (taken : effect s = .ok after) (more : Interleaves (Function.update requests i (next s)) after labels rest last) :
      Interleaves requests s (label :: labels) rest last

inductive Access (ω : Type)
  | read (writer : ω)
  | write (writer : ω)

variable {ω V : Type} [DecidableEq ω]

/-- A write that does not look at the value. -/
def overwrite (writer : ω) (value : V) : Statements V (Access ω) ε Unit :=
  .send (.write writer) (fun _ => .ok value) fun _ => .done ()

/-- A write of what is made of the value read before. -/
def modify (writer : ω) (change : V → V) : Statements V (Access ω) ε Unit :=
  .send (.read writer) .ok fun value => overwrite writer (change value)

/-- Every write is behind all writes before it: its writer is among those who may overwrite at the start, or has read
the value since the last write. -/
def Serial : List ω → List (Access ω) → Prop
  | _, [] => True
  | fresh, .read writer :: rest => Serial (writer :: fresh) rest
  | fresh, .write writer :: rest => writer ∈ fresh ∧ Serial [] rest

instance decidableSerial : ∀ (fresh : List ω) accesses, Decidable (Serial fresh accesses)
  | _, [] => inferInstanceAs (Decidable True)
  | fresh, .read writer :: rest => decidableSerial (writer :: fresh) rest
  | fresh, .write _ :: rest =>
    have := decidableSerial [] rest
    inferInstanceAs (Decidable (_ ∈ fresh ∧ _))

variable {holds : Finset ω → V} {active stored written : Finset ω} {fresh : List ω}

/-- How far a writer has come, where a value is known by the writes it holds. -/
inductive Progress (holds : Finset ω → V) (active stored written : Finset ω) (fresh : List ω) (writer : ω) :
    Statements V (Access ω) ε Unit → Prop
  | reads {change : V → V} (wants : writer ∈ active) (unwritten : writer ∉ written) (unread : writer ∉ fresh)
      (adds : ∀ held, writer ∉ held → change (holds held) = holds (insert writer held)) :
      Progress holds active stored written fresh writer (modify writer change)
  | writes {seen : Finset ω} (wants : writer ∈ active) (unwritten : writer ∉ written) (old : seen ⊆ written)
      (current : writer ∈ fresh → seen = stored) (outdated : writer ∉ fresh → seen ≠ written) :
      Progress holds active stored written fresh writer (overwrite writer (holds (insert writer seen)))
  | past (through : writer ∈ active → writer ∈ written) : Progress holds active stored written fresh writer (.done ())

theorem Progress.read {request : Statements V (Access ω) ε Unit} {writer other : ω} (apart : writer ≠ other)
    (progress : Progress holds active stored written fresh writer request) :
    Progress holds active stored written (other :: fresh) writer request := by
  have same : writer ∈ other :: fresh ↔ writer ∈ fresh := by simp [apart]
  cases progress with
  | reads wants unwritten unread adds => exact .reads wants unwritten (same.not.mpr unread) adds
  | writes wants unwritten old current outdated =>
    exact .writes wants unwritten old (fun read => current (same.mp read)) (fun unread => outdated (same.not.mp unread))
  | past through => exact .past through

theorem Progress.write (apart : writer ≠ other) (first : other ∉ written)
    (progress : Progress holds active stored written fresh writer request) :
    Progress holds active now (insert other written) [] writer request := by
  have unwritten' (unwritten : writer ∉ written) : writer ∉ insert other written := by simp [apart, unwritten]
  cases progress with
  | reads wants unwritten _ adds => exact .reads wants (unwritten' unwritten) (List.not_mem_nil) adds
  | writes wants unwritten old =>
    refine .writes wants (unwritten' unwritten) (old.trans (Finset.subset_insert _ _)) (nofun) ?_
    rintro - rfl
    exact first (old (Finset.mem_insert_self _ _))
  | past through => exact .past fun wants => Finset.mem_insert_of_mem (through wants)

/-- At the end the value holds every write exactly when no write was lost so far and none is lost from here on. -/
theorem Interleaves.holds_all {requests rest : ω → Statements V (Access ω) ε Unit}
    (run : Interleaves requests s accesses rest last) (start : s = holds stored)
    (progress : ∀ writer, Progress holds active stored written fresh writer (requests writer))
    (kept : stored ⊆ written) (known : written ⊆ active) (finished : ∀ writer, rest writer = .done ()) :
    ∃ held, last = holds held ∧ held ⊆ active ∧ (held = active ↔ stored = written ∧ Serial fresh accesses) := by
  induction run generalizing stored written fresh with
  | nil =>
    have all : written = active := by
      refine known.antisymm fun writer wants => ?_
      have through := progress writer
      rw [finished writer] at through
      cases through with
      | past through => exact through wants
    exact ⟨stored, start, kept.trans known, by simp [Serial, all]⟩
  | @step requests _ s _ _ _ _ _ _ i here taken _ ih =>
    have own := progress i
    generalize requests i = request at here own
    have elsewhere (request : Statements V (Access ω) ε Unit) {stored written : Finset ω} {fresh : List ω}
        (others : ∀ writer, writer ≠ i → Progress holds active stored written fresh writer (requests writer))
        (now : Progress holds active stored written fresh i request) (writer : ω) :
        Progress holds active stored written fresh writer (Function.update requests i request writer) := by
      by_cases same : writer = i
      · cases same
        rw [Function.update_self]
        exact now
      · rw [Function.update_of_ne same]
        exact others writer same
    cases own with
    | @reads change wants unwritten unread adds =>
      unfold modify at here
      cases here
      cases taken
      subst start
      -- The value it will write is fixed by what it has read.
      have fixed : Progress holds active stored written (i :: fresh) i
          (overwrite i (change (holds stored)) : Statements V (Access ω) ε Unit) := by
        rw [adds stored fun held => unwritten (kept held)]
        exact .writes wants unwritten kept (fun _ => rfl) fun unread => absurd List.mem_cons_self unread
      exact ih rfl (elsewhere _ (fun writer apart => (progress writer).read apart) fixed) kept known finished
    | @writes seen wants unwritten old current outdated =>
      unfold overwrite at here
      cases here
      cases taken
      have joined : insert i seen ⊆ insert i written := Finset.insert_subset_insert i old
      obtain ⟨held, final, within, all⟩ := ih rfl
        (elsewhere _ (fun writer apart => (progress writer).write apart unwritten)
          (.past fun _ => Finset.mem_insert_self _ _))
        joined (Finset.insert_subset wants known) finished
      refine ⟨held, final, within, all.trans ?_⟩
      have same : insert i seen = insert i written ↔ seen = written := by
        refine ⟨fun same => ?_, congrArg _⟩
        rw [← Finset.erase_insert unwritten, ← same, Finset.erase_insert fun held => unwritten (old held)]
      rw [same, Serial]
      by_cases read : i ∈ fresh
      · simp [current read, read]
      · simp [outdated read, read]
    | past => cases here

end Duskcue.Statements
