import Duskcue.ImportLimits
import Mathlib.Data.List.Perm.Basic

/-! The programmes of a guide channel that contradict each other. One sweep in the order
of their starts marks them. -/
namespace Duskcue.Imports

/-! ## Programmes -/

/-- `UNCERTAIN`. -/
def uncertain : BitVec 32 := 1
/-- `CONFLICT`. -/
def conflict : BitVec 32 := 2
/-- `OVERLAP`. -/
def overlap : BitVec 32 := 4
/-- `CLUMP`. -/
def clump : BitVec 32 := 8

variable {Id Metadata : Type}

structure Programme (Id Metadata : Type) where
  id : Id
  start : Option Int
  stop : Option Int
  flags : BitVec 32
  metadata : Metadata
  deriving DecidableEq

/-- What `save` makes of a programme, from the times that it has read. -/
def savedProgramme (id : Id) (start stop : Option Int) (clumpidx : Bool) (metadata : Metadata) :
    Programme Id Metadata :=
  let flags : BitVec 32 := if start.isNone || stop.isNone then uncertain else 0
  let backwards := match start, stop with
    | some a, some b => decide (a ≥ b)
    | _, _ => false
  let start := if backwards then none else start
  let stop := if backwards then none else stop
  let flags := if backwards then flags ||| uncertain else flags
  let flags := if clumpidx then flags ||| clump else flags
  { id, start, stop, flags, metadata }

/-- `p.start.zip(p.stop)`. -/
def Programme.span (p : Programme Id Metadata) : Option (Int × Int) :=
  match p.start, p.stop with
  | some start, some stop => some (start, stop)
  | _, _ => none

/-! ## The sweep -/

/-- The order of an `Option`: nothing comes first. -/
def optionLe : Option Int → Option Int → Bool
  | none, _ => true
  | some _, none => false
  | some a, some b => a ≤ b

/-- The order of the keys `(p.start, p.stop)`. -/
def keyLe (p q : Programme Id Metadata) : Bool :=
  if p.start = q.start then optionLe p.stop q.stop else optionLe p.start q.start

structure Sweep (Id Metadata : Type) where
  programmes : List (Programme Id Metadata)
  group : Nat
  maxEnd : Option Int
  component : Nat

def addFlag (flag : BitVec 32) (programmes : List (Programme Id Metadata)) (i : Nat) : List (Programme Id Metadata) :=
  programmes.modify i fun p => { p with flags := p.flags ||| flag }

def startAt (programmes : List (Programme Id Metadata)) (i : Nat) : Option Int := programmes[i]?.bind Programme.start

def spanAt (programmes : List (Programme Id Metadata)) (i : Nat) : Option (Int × Int) :=
    programmes[i]?.bind Programme.span

/-- The first half of a step: programmes with one start. -/
def sweepStart (sweep : Sweep Id Metadata) (i : Nat) : Sweep Id Metadata :=
  if i = 0 || startAt sweep.programmes i ≠ startAt sweep.programmes (i - 1) then { sweep with group := i }
  else if (startAt sweep.programmes i).isSome then
    { sweep with programmes := addFlag conflict (addFlag conflict sweep.programmes sweep.group) i }
  else sweep

/-- The second half of a step: programmes that go on until another has begun. -/
def sweepSpan (sweep : Sweep Id Metadata) (i : Nat) : Sweep Id Metadata :=
  match spanAt sweep.programmes i with
  | some (start, stop) =>
    if sweep.maxEnd.any (start < ·) then
      { sweep with
        programmes := addFlag overlap (addFlag overlap sweep.programmes sweep.component) i
        maxEnd := sweep.maxEnd.map (max · stop) }
    else { sweep with component := i, maxEnd := some stop }
  | none => sweep

def sweepFrom (work : Work) (sweep : Sweep Id Metadata) : List Nat → Except ImportError (Sweep Id Metadata)
  | [] => .ok sweep
  | i :: rest => do
    let work ← work.check
    sweepFrom work (sweepSpan (sweepStart sweep i) i) rest

/-- `ambiguity`. -/
def ambiguity (programmes : List (Programme Id Metadata)) (work : Work) :
    Except ImportError (List (Programme Id Metadata)) := do
  let programmes := programmes.mergeSort keyLe
  let sweep ← sweepFrom work ⟨programmes, 0, none, 0⟩ (List.range programmes.length)
  return sweep.programmes

/-! ## What the marks mean -/

/-- The programme has a beginning and an end, the one before the other, if it has both. -/
def Programme.Ordered (p : Programme Id Metadata) : Prop := ∀ start stop, p.span = some (start, stop) → start < stop

/-- The programme is on at the instant. -/
def Programme.On (p : Programme Id Metadata) (instant : Int) : Prop :=
  ∃ start stop, p.span = some (start, stop) ∧ start ≤ instant ∧ instant < stop

/-- Both begin at one known instant. -/
def SameStart (p q : Programme Id Metadata) : Prop := p.start.isSome ∧ q.start = p.start

/-- Both are on at one instant. -/
def Meet (p q : Programme Id Metadata) : Prop := ∃ instant, p.On instant ∧ q.On instant

open Classical in
/-- The flag, or none. -/
noncomputable def flagIf (holds : Prop) (flag : BitVec 32) : BitVec 32 := if holds then flag else 0

/-- The programme with these marks added. -/
noncomputable def Programme.marked (p : Programme Id Metadata) (conflicts overlaps : Prop) : Programme Id Metadata :=
  { p with flags := p.flags ||| flagIf conflicts conflict ||| flagIf overlaps overlap }

/-! ## Marks along the sweep -/

variable {xs ys : List (Programme Id Metadata)} {c c' o o' : Nat → Prop} {i j k : Nat}

/-- The programmes at `c` are marked as conflicting, those at `o` as overlapping. -/
def Marks (xs ys : List (Programme Id Metadata)) (c o : Nat → Prop) : Prop :=
  ∀ j : Nat, ys[j]? = xs[j]?.map fun p : Programme Id Metadata => p.marked (c j) (o j)

theorem flagIf_pos {holds : Prop} (flag : BitVec 32) (proof : holds) : flagIf holds flag = flag := if_pos proof

theorem flagIf_neg {holds : Prop} (flag : BitVec 32) (fails : ¬ holds) : flagIf holds flag = 0 := if_neg fails

theorem or_first (flags a b : BitVec 32) : flags ||| a ||| b ||| a = flags ||| a ||| b := by
  rw [BitVec.or_assoc (flags ||| a), BitVec.or_comm b, ← BitVec.or_assoc, BitVec.or_assoc flags, BitVec.or_self]

theorem or_second (flags a b : BitVec 32) : flags ||| a ||| b ||| b = flags ||| a ||| b := by
  rw [BitVec.or_assoc (flags ||| a), BitVec.or_self]

theorem Marks.unmarked (xs : List (Programme Id Metadata)) : Marks xs xs (fun _ => False) fun _ => False := by
  intro j
  cases xs[j]? <;> simp [Programme.marked, flagIf_neg]

section
variable (marks : Marks xs ys c o)
include marks

theorem Marks.startAt (j : Nat) : startAt ys j = startAt xs j := by
  unfold Imports.startAt
  rw [marks j]
  cases xs[j]? <;> rfl

theorem Marks.spanAt (j : Nat) : spanAt ys j = spanAt xs j := by
  unfold Imports.spanAt
  rw [marks j]
  cases xs[j]? <;> rfl

theorem Marks.congr (left : ∀ j, c j ↔ c' j) (right : ∀ j, o j ↔ o' j) : Marks xs ys c' o' := by
  obtain rfl : c = c' := funext fun j => propext (left j)
  obtain rfl : o = o' := funext fun j => propext (right j)
  exact marks

theorem Marks.conflict (i : Nat) : Marks xs (addFlag conflict ys i) (fun j => c j ∨ j = i) o := by
  intro j
  rw [addFlag, List.getElem?_modify, marks j]
  cases xs[j]? with
  | none => rfl
  | some =>
    by_cases same : i = j
    · subst same
      simp only [Option.map_some, Option.map_eq_map, if_true, Programme.marked, or_true, flagIf_pos _ trivial]
      by_cases before : c i
      · simp [flagIf_pos _ before, or_first]
      · simp [flagIf_neg _ before, BitVec.or_assoc, BitVec.or_comm Imports.conflict (flagIf _ _)]
    · simp [same, Ne.symm same, Programme.marked]

theorem Marks.overlap (i : Nat) : Marks xs (addFlag overlap ys i) c (fun j => o j ∨ j = i) := by
  intro j
  rw [addFlag, List.getElem?_modify, marks j]
  cases xs[j]? with
  | none => rfl
  | some =>
    by_cases same : i = j
    · subst same
      simp only [Option.map_some, Option.map_eq_map, if_true, Programme.marked, or_true, flagIf_pos _ trivial]
      by_cases before : o i
      · simp [flagIf_pos _ before, or_second]
      · simp [flagIf_neg _ before]
    · simp [same, Ne.symm same, Programme.marked]

end

/-- Among the first `i` programmes another one has the same start. -/
def ConflictAt (xs : List (Programme Id Metadata)) (i j : Nat) : Prop :=
  j < i ∧ (startAt xs j).isSome ∧ ∃ k < i, k ≠ j ∧ startAt xs k = startAt xs j

/-- Among the first `i` programmes another one is on at the same time. -/
def OverlapAt (xs : List (Programme Id Metadata)) (i j : Nat) : Prop :=
  j < i ∧ ∃ k < i, k ≠ j ∧ ∃ a b a' b', spanAt xs j = some (a, b) ∧ spanAt xs k = some (a', b') ∧ a < b' ∧ a' < b

/-- The programmes come in the order of their starts. -/
def StartsSorted (xs : List (Programme Id Metadata)) : Prop :=
  ∀ j k, j < k → k < xs.length → optionLe (startAt xs j) (startAt xs k) = true

/-- The group is where the last start was first seen. -/
def Grouped (xs : List (Programme Id Metadata)) (i group : Nat) : Prop :=
  0 < i → group < i ∧ startAt xs group = startAt xs (i - 1) ∧ ∀ k < group, startAt xs k ≠ startAt xs (i - 1)

theorem optionLe_antisymm (left : optionLe a b = true) (right : optionLe b a = true) : a = b := by
  cases a <;> cases b <;> simp_all [optionLe]
  omega

theorem optionLe_trans {a b c : Option Int} (left : optionLe a b = true) (right : optionLe b c = true) :
    optionLe a c = true := by
  cases a <;> cases b <;> cases c <;> simp_all [optionLe]
  omega

theorem optionLe_total (a b : Option Int) : optionLe a b = true ∨ optionLe b a = true := by
  cases a <;> cases b <;> simp [optionLe]
  omega

theorem start_between (sorted : StartsSorted xs) (first : j ≤ k) (second : k ≤ i) (inside : i < xs.length)
    (same : startAt xs j = startAt xs i) : startAt xs k = startAt xs i := by
  rcases Nat.eq_or_lt_of_le first with rfl | left
  · exact same
  · rcases Nat.eq_or_lt_of_le second with rfl | right
    · rfl
    · have low := sorted j k left (by omega)
      rw [same] at low
      exact optionLe_antisymm (sorted k i right inside) low

theorem ConflictAt.later (conflict : ConflictAt xs i j) : ConflictAt xs (i + 1) j := by
  obtain ⟨lt, known, k, before, other, same⟩ := conflict
  exact ⟨by omega, known, k, by omega, other, same⟩

theorem OverlapAt.later (overlap : OverlapAt xs i j) : OverlapAt xs (i + 1) j := by
  obtain ⟨lt, k, before, other, meets⟩ := overlap
  exact ⟨by omega, k, by omega, other, meets⟩

/-- The first half of a step marks the programmes that conflict with the new one. -/
theorem sweepStart_marks {sweep : Sweep Id Metadata} (sorted : StartsSorted xs) (inside : i < xs.length)
    (marks : Marks xs sweep.programmes (ConflictAt xs i) o) (grouped : Grouped xs i sweep.group) :
    Marks xs (sweepStart sweep i).programmes (ConflictAt xs (i + 1)) o ∧
      Grouped xs (i + 1) (sweepStart sweep i).group := by
  unfold sweepStart
  rw [marks.startAt, marks.startAt]
  by_cases fresh : i = 0 ∨ startAt xs i ≠ startAt xs (i - 1)
  · rw [if_pos (by simpa using fresh)]
    have alone : ∀ k < i, startAt xs k ≠ startAt xs i := by
      intro k lt same
      rcases fresh with zero | other
      · omega
      · exact other (start_between sorted (k := i - 1) (by omega) (by omega) inside same).symm
    refine ⟨marks.congr (fun j => ⟨ConflictAt.later, ?_⟩) fun j => Iff.rfl, fun _ => ⟨by simp, rfl, alone⟩⟩
    rintro ⟨lt, known, k, before, other, same⟩
    have early : j ≠ i := by
      rintro rfl
      exact alone k (by omega) same
    have early' : k ≠ i := by
      rintro rfl
      exact alone j (by omega) same.symm
    exact ⟨by omega, known, k, by omega, other, same⟩
  · obtain ⟨positive, same⟩ := not_or.mp fresh
    rw [not_not] at same
    obtain ⟨lt, start, first⟩ := grouped (by omega)
    rw [← same] at start first
    rw [if_neg (by simpa using fresh)]
    have grouped' : Grouped xs (i + 1) sweep.group := fun _ => ⟨by omega, start, first⟩
    split
    · rename_i known
      refine ⟨((marks.conflict sweep.group).conflict i).congr (fun j => ⟨?_, ?_⟩) fun j => Iff.rfl, grouped'⟩
      · rintro ((before | rfl) | rfl)
        · exact before.later
        · exact ⟨by omega, by rwa [start], i, by omega, by omega, start.symm⟩
        · exact ⟨by omega, known, sweep.group, by omega, by omega, start⟩
      · rintro ⟨before, known, k, early, other, equal⟩
        by_cases last : j = i
        · exact .inr last
        · by_cases head : j = sweep.group
          · exact .inl (.inr head)
          · by_cases new : k = i
            · rw [new] at equal
              exact .inl (.inl ⟨by omega, known, sweep.group, lt, Ne.symm head, by rw [start, equal]⟩)
            · exact .inl (.inl ⟨by omega, known, k, by omega, other, equal⟩)
    · rename_i unknown
      refine ⟨marks.congr (fun j => ⟨ConflictAt.later, ?_⟩) fun j => Iff.rfl, grouped'⟩
      rintro ⟨before, known, k, early, other, equal⟩
      have last : j ≠ i := by
        rintro rfl
        exact unknown known
      have new : k ≠ i := by
        rintro rfl
        rw [← equal] at known
        exact unknown known
      exact ⟨by omega, known, k, by omega, other, equal⟩

/-- The component is where the run of programmes began that go on until the latest end. -/
structure Spanned (xs : List (Programme Id Metadata)) (i : Nat) (maxEnd : Option Int) (component : Nat) : Prop where
  idle : maxEnd = none → ∀ k < i, spanAt xs k = none
  lt : ∀ latest, maxEnd = some latest → component < i
  latest : ∀ latest, maxEnd = some latest → ∃ k < i, component ≤ k ∧ ∃ a, spanAt xs k = some (a, latest)
  ends : ∀ latest, maxEnd = some latest → ∀ k < i, ∀ a b, spanAt xs k = some (a, b) → b ≤ latest
  opened : ∀ latest, maxEnd = some latest → ∃ a b, spanAt xs component = some (a, b) ∧
    (b = latest ∨ OverlapAt xs i component) ∧ ∀ k < component, ∀ a' b', spanAt xs k = some (a', b') → b' ≤ a
  joined : ∀ latest, maxEnd = some latest → ∀ k, component < k → k < i → spanAt xs k ≠ none → OverlapAt xs i k

theorem start_of_span (span : spanAt xs k = some (a, b)) : startAt xs k = some a := by
  unfold spanAt at span
  unfold startAt
  cases found : xs[k]? with
  | none => simp [found] at span
  | some =>
    rw [found, Option.bind_some, Programme.span] at span
    rw [Option.bind_some]
    split at span
    · rename_i first _ known _
      rw [known, (Prod.mk.inj (Option.some.inj span)).1]
    · cases span

theorem starts_le (sorted : StartsSorted xs) (order : j ≤ k) (inside : k < xs.length)
    (first : spanAt xs j = some (a, b)) (second : spanAt xs k = some (a', b')) : a ≤ a' := by
  rcases Nat.eq_or_lt_of_le order with rfl | before
  · rw [first] at second
    exact Int.le_of_eq (Prod.mk.inj (Option.some.inj second)).1
  · have sorted := sorted j k before inside
    rw [start_of_span first, start_of_span second] at sorted
    simpa [optionLe] using sorted

theorem OverlapAt.symm_of (first : spanAt xs j = some (a, b)) (second : spanAt xs k = some (a', b'))
    (inside : j < i ∧ k < i) (other : k ≠ j) (meets : a < b' ∧ a' < b) : OverlapAt xs i j ∧ OverlapAt xs i k :=
  ⟨⟨inside.1, k, inside.2, other, a, b, a', b', first, second, meets⟩,
    ⟨inside.2, j, inside.1, Ne.symm other, a', b', a, b, second, first, meets.2, meets.1⟩⟩

/-- A programme of which one end is unknown changes nothing. -/
theorem Spanned.skip (spanned : Spanned xs i maxEnd component) (unknown : spanAt xs i = none) :
    (∀ j, OverlapAt xs (i + 1) j ↔ OverlapAt xs i j) ∧ Spanned xs (i + 1) maxEnd component := by
  have old {k : Nat} {a b : Int} (known : spanAt xs k = some (a, b)) (early : k < i + 1) : k < i := by
    have other : k ≠ i := by
      rintro rfl
      rw [unknown] at known
      cases known
    omega
  refine ⟨fun j => ⟨?_, OverlapAt.later⟩, ⟨?_, ?_, ?_, ?_, ?_, ?_⟩⟩
  · rintro ⟨early, k, early', other, a, b, a', b', left, right, meets⟩
    exact ⟨old left early, k, old right early', other, a, b, a', b', left, right, meets⟩
  · intro idle k early
    by_cases new : k = i
    · rw [new, unknown]
    · exact spanned.idle idle k (by omega)
  · intro latest seen
    have lt := spanned.lt latest seen
    omega
  · intro latest seen
    obtain ⟨k, early, found⟩ := spanned.latest latest seen
    exact ⟨k, by omega, found⟩
  · intro latest seen k early a b known
    exact spanned.ends latest seen k (old known early) a b known
  · intro latest seen
    obtain ⟨a, b, opening, reaches, earlier⟩ := spanned.opened latest seen
    exact ⟨a, b, opening, reaches.imp_right OverlapAt.later, earlier⟩
  · intro latest seen k after early known
    obtain ⟨times, shape⟩ := Option.ne_none_iff_exists'.mp known
    exact (spanned.joined latest seen k after (old shape early) known).later

section
variable (ordered : ∀ k a b, spanAt xs k = some (a, b) → a < b) (inside : i < xs.length)
include ordered inside

/-- A programme that begins before the latest end joins the run. -/
theorem Spanned.join {start stop latest : Int} (sorted : StartsSorted xs)
    (spanned : Spanned xs i (some latest) component)
    (span : spanAt xs i = some (start, stop)) (early : start < latest) :
    (∀ j, OverlapAt xs (i + 1) j ↔ OverlapAt xs i j ∨ j = component ∨ j = i) ∧
      Spanned xs (i + 1) (some (max latest stop)) component := by
  have lt := spanned.lt latest rfl
  obtain ⟨last, before, after, first, found⟩ := spanned.latest latest rfl
  obtain ⟨a, b, opening, reaches, earlier⟩ := spanned.opened latest rfl
  have grows := ordered i start stop span
  have begun := starts_le sorted (by omega) inside found span
  have meets := OverlapAt.symm_of (i := i + 1) found span ⟨by omega, by omega⟩ (by omega) ⟨by omega, early⟩
  have opens : OverlapAt xs (i + 1) component := by
    rcases reaches with same | known
    · have begun := starts_le sorted (by omega) inside opening span
      exact (OverlapAt.symm_of opening span ⟨by omega, by omega⟩ (by omega) ⟨by omega, by omega⟩).1
    · exact known.later
  refine ⟨fun j => ⟨?_, ?_⟩, ⟨by simp, fun _ _ => by omega, ?_, ?_, ?_, ?_⟩⟩
  · rintro ⟨inside', k, early', other, a', b', a'', b'', left, right, meets⟩
    by_cases new : j = i
    · exact .inr (.inr new)
    · by_cases head : j = component
      · exact .inr (.inl head)
      · by_cases far : k = i
        · -- what is on when the new one begins belongs to the run
          have after : ¬ j < component := by
            intro lt
            have low := earlier j lt a' b' left
            have begun := starts_le sorted (by omega) inside opening span
            rw [far, span] at right
            cases right
            omega
          exact .inl (spanned.joined latest rfl j (by omega) (by omega) (by simp [left]))
        · exact .inl ⟨by omega, k, by omega, other, a', b', a'', b'', left, right, meets⟩
  · rintro (known | rfl | rfl)
    · exact known.later
    · exact opens
    · exact meets.2
  · rintro _ ⟨⟩
    by_cases longer : latest ≤ stop
    · exact ⟨i, by omega, by omega, start, by rw [span, max_eq_right longer]⟩
    · exact ⟨last, by omega, after, first, by rw [found, max_eq_left (by omega)]⟩
  · rintro _ ⟨⟩ k early' a' b' known
    by_cases new : k = i
    · rw [new, span] at known
      cases known
      omega
    · have low := spanned.ends latest rfl k (by omega) a' b' known
      omega
  · rintro _ ⟨⟩
    exact ⟨a, b, opening, .inr opens, earlier⟩
  · rintro _ ⟨⟩ k after' early' known
    by_cases new : k = i
    · rw [new]
      exact meets.2
    · exact (spanned.joined latest rfl k after' (by omega) known).later

/-- A programme that begins later opens a run of its own. -/
theorem Spanned.alone (spanned : Spanned xs i maxEnd component)
    (span : spanAt xs i = some (start, stop)) (late : ∀ latest, maxEnd = some latest → latest ≤ start) :
    (∀ j, OverlapAt xs (i + 1) j ↔ OverlapAt xs i j) ∧ Spanned xs (i + 1) (some stop) i := by
  have grows := ordered i start stop span
  have past : ∀ k < i, ∀ a b, spanAt xs k = some (a, b) → b ≤ start := by
    intro k early a b known
    cases seen : maxEnd with
    | none =>
      rw [spanned.idle seen k early] at known
      cases known
    | some latest =>
      have low := spanned.ends latest seen k early a b known
      have high := late latest seen
      omega
  refine ⟨fun j => ⟨?_, OverlapAt.later⟩, ⟨by simp, fun _ _ => by omega, ?_, ?_, ?_, fun _ _ k _ _ => by omega⟩⟩
  · rintro ⟨early, k, early', other, a, b, a', b', left, right, meets⟩
    have old : j ≠ i := by
      rintro rfl
      rw [span] at left
      cases left
      have low := past k (by omega) a' b' right
      omega
    have old' : k ≠ i := by
      rintro rfl
      rw [span] at right
      cases right
      have low := past j (by omega) a b left
      omega
    exact ⟨by omega, k, by omega, other, a, b, a', b', left, right, meets⟩
  · rintro _ ⟨⟩
    exact ⟨i, by omega, Nat.le_refl i, start, span⟩
  · rintro _ ⟨⟩ k early a b known
    by_cases new : k = i
    · rw [new, span] at known
      exact Int.le_of_eq (Prod.mk.inj (Option.some.inj known)).2.symm
    · have low := past k (by omega) a b known
      omega
  · rintro _ ⟨⟩
    exact ⟨start, stop, span, .inl rfl, fun k early a b known => past k early a b known⟩

/-- The second half of a step marks the programmes that are on with the new one. -/
theorem sweepSpan_marks {sweep : Sweep Id Metadata} (sorted : StartsSorted xs)
    (marks : Marks xs sweep.programmes c (OverlapAt xs i))
    (spanned : Spanned xs i sweep.maxEnd sweep.component) :
    Marks xs (sweepSpan sweep i).programmes c (OverlapAt xs (i + 1)) ∧
      Spanned xs (i + 1) (sweepSpan sweep i).maxEnd (sweepSpan sweep i).component := by
  unfold sweepSpan
  rw [marks.spanAt]
  cases span : spanAt xs i with
  | none =>
    obtain ⟨same, spanned'⟩ := spanned.skip span
    exact ⟨marks.congr (fun j => Iff.rfl) fun j => (same j).symm, spanned'⟩
  | some times =>
    obtain ⟨start, stop⟩ := times
    simp only
    cases seen : sweep.maxEnd with
    | none =>
      rw [if_neg (by simp)]
      obtain ⟨same, spanned'⟩ := spanned.alone ordered inside span (by simp [seen])
      exact ⟨marks.congr (fun j => Iff.rfl) fun j => (same j).symm, spanned'⟩
    | some latest =>
      rw [seen] at spanned
      by_cases early : start < latest
      · rw [if_pos (by simpa using early)]
        obtain ⟨new, spanned'⟩ := spanned.join ordered inside sorted span early
        refine ⟨((marks.overlap sweep.component).overlap i).congr (fun j => Iff.rfl) fun j => ?_, spanned'⟩
        rw [new, or_assoc]
      · rw [if_neg (by simpa using early)]
        obtain ⟨same, spanned'⟩ := spanned.alone ordered inside span (by simpa using early)
        exact ⟨marks.congr (fun j => Iff.rfl) fun j => (same j).symm, spanned'⟩

end

/-- The first `i` programmes are marked as they mark each other. -/
structure Swept (xs : List (Programme Id Metadata)) (i : Nat) (sweep : Sweep Id Metadata) : Prop where
  marks : Marks xs sweep.programmes (ConflictAt xs i) (OverlapAt xs i)
  grouped : Grouped xs i sweep.group
  spanned : Spanned xs i sweep.maxEnd sweep.component

theorem sweepStart_rest (sweep : Sweep Id Metadata) (i : Nat) :
    (sweepStart sweep i).maxEnd = sweep.maxEnd ∧ (sweepStart sweep i).component = sweep.component := by
  unfold sweepStart
  split
  · exact ⟨rfl, rfl⟩
  · split <;> exact ⟨rfl, rfl⟩

theorem sweepSpan_group (sweep : Sweep Id Metadata) (i : Nat) : (sweepSpan sweep i).group = sweep.group := by
  unfold sweepSpan
  split
  · split <;> rfl
  · rfl

theorem swept_step (sorted : StartsSorted xs)
    (ordered : ∀ k a b, spanAt xs k = some (a, b) → a < b) (inside : i < xs.length) (swept : Swept xs i sweep) :
    Swept xs (i + 1) (sweepSpan (sweepStart sweep i) i) := by
  obtain ⟨marks, grouped⟩ := sweepStart_marks sorted inside swept.marks swept.grouped
  obtain ⟨maxEnd, component⟩ := sweepStart_rest sweep i
  have spanned := swept.spanned
  rw [← maxEnd, ← component] at spanned
  obtain ⟨marks, spanned⟩ := sweepSpan_marks ordered inside sorted marks spanned
  exact ⟨marks, by rwa [sweepSpan_group], spanned⟩

/-- The whole sweep, in so far as it is not broken off. -/
theorem swept_from (sorted : StartsSorted xs)
    (ordered : ∀ k a b, spanAt xs k = some (a, b) → a < b) (n : Nat) (whole : i + n = xs.length)
    (swept : Swept xs i sweep) (done : sweepFrom work sweep (List.range' i n) = .ok final) :
    Swept xs xs.length final := by
  induction n generalizing i work sweep with
  | zero =>
    cases done
    rw [← whole]
    exact swept
  | succ n ih =>
    rw [List.range'_succ, sweepFrom] at done
    cases looked : work.check with
    | error =>
      rw [looked] at done
      cases done
    | ok =>
      rw [looked] at done
      exact ih (by omega) (swept_step sorted ordered (by omega) swept) done

theorem sweepFrom_inTime {work : Work} (inTime : work.InTime) (indices : List Nat) (sweep : Sweep Id Metadata) :
    ∃ final, sweepFrom work sweep indices = .ok final := by
  induction indices generalizing work sweep with
  | nil => exact ⟨sweep, rfl⟩
  | cons i _ ih =>
    rw [sweepFrom, work.check_inTime inTime]
    exact @ih { work with looks := work.looks + 1 } inTime _

/-! ## The marks of a guide channel -/

theorem keyLe_trans (p q r : Programme Id Metadata) (left : keyLe p q = true) (right : keyLe q r = true) :
    keyLe p r = true := by
  unfold keyLe at *
  by_cases first : p.start = q.start
  · by_cases second : q.start = r.start
    · rw [if_pos first] at left
      rw [if_pos second] at right
      rw [if_pos (first.trans second)]
      exact optionLe_trans left right
    · rw [if_neg second, ← first] at right
      rwa [if_neg (first ▸ second)]
  · rw [if_neg first] at left
    by_cases second : q.start = r.start
    · rwa [← second, if_neg first]
    · rw [if_neg second] at right
      rw [if_neg]
      · exact optionLe_trans left right
      · intro same
        rw [← same] at right
        exact first (optionLe_antisymm left right)

theorem keyLe_total (p q : Programme Id Metadata) : (keyLe p q || keyLe q p) = true := by
  rw [Bool.or_eq_true]
  unfold keyLe
  by_cases same : p.start = q.start
  · rw [if_pos same, if_pos same.symm]
    exact optionLe_total _ _
  · rw [if_neg same, if_neg (Ne.symm same)]
    exact optionLe_total _ _

theorem start_le_of_keyLe (le : keyLe p q = true) : optionLe p.start q.start = true := by
  unfold keyLe at le
  split at le
  · rename_i same
    rw [same]
    cases q.start <;> simp [optionLe]
  · exact le

theorem mergeSort_sorted (programmes : List (Programme Id Metadata)) : StartsSorted (programmes.mergeSort keyLe) := by
  have pairs := List.pairwise_mergeSort keyLe_trans keyLe_total programmes
  intro j k before inside
  have le := start_le_of_keyLe (List.pairwise_iff_getElem.mp pairs j k (by omega) inside before)
  unfold startAt
  rwa [List.getElem?_eq_getElem inside, List.getElem?_eq_getElem (by omega)]

/-- Another one of the list is one at another place. -/
theorem other_iff [DecidableEq Id] [DecidableEq Metadata]
    {holds : Programme Id Metadata → Prop} (found : xs[j]? = some p) :
    (∃ q ∈ xs.erase p, holds q) ↔ ∃ k, k ≠ j ∧ ∃ q, xs[k]? = some q ∧ holds q := by
  obtain ⟨inside, rfl⟩ := List.getElem?_eq_some_iff.mp found
  have same : (xs.erase xs[j]).Perm (xs.eraseIdx j) :=
    ((List.perm_cons_erase (List.getElem_mem inside)).symm.trans (List.getElem_cons_eraseIdx_perm inside).symm).cons_inv
  constructor
  · rintro ⟨q, member, proof⟩
    obtain ⟨k, other, known⟩ := List.mem_eraseIdx_iff_getElem?.mp (same.mem_iff.mp member)
    exact ⟨k, other, q, known, proof⟩
  · rintro ⟨k, other, q, known, proof⟩
    exact ⟨q, same.mem_iff.mpr (List.mem_eraseIdx_iff_getElem?.mpr ⟨k, other, known⟩), proof⟩

theorem conflictAt_iff [DecidableEq Id] [DecidableEq Metadata] (found : xs[j]? = some p) :
    ConflictAt xs xs.length j ↔ ∃ q ∈ xs.erase p, SameStart p q := by
  have inside := (List.getElem?_eq_some_iff.mp found).1
  rw [other_iff found]
  unfold ConflictAt SameStart startAt
  rw [found, Option.bind_some]
  constructor
  · rintro ⟨-, known, k, lt, other, same⟩
    rw [List.getElem?_eq_getElem lt] at same
    exact ⟨k, other, xs[k], List.getElem?_eq_getElem lt, known, same⟩
  · rintro ⟨k, other, q, known, isSome, same⟩
    exact ⟨inside, isSome, k, (List.getElem?_eq_some_iff.mp known).1, other, by rw [known, Option.bind_some, same]⟩

theorem meet_iff {p q : Programme Id Metadata} (left : p.Ordered) (right : q.Ordered) : Meet p q ↔
    ∃ a b a' b', p.span = some (a, b) ∧ q.span = some (a', b') ∧ a < b' ∧ a' < b := by
  constructor
  · rintro ⟨instant, ⟨a, b, first, from', until'⟩, a', b', second, from'', until''⟩
    exact ⟨a, b, a', b', first, second, by omega, by omega⟩
  · rintro ⟨a, b, a', b', first, second, meets⟩
    have grows := left a b first
    have grows' := right a' b' second
    exact ⟨max a a', ⟨a, b, first, by omega, by omega⟩, a', b', second, by omega, by omega⟩

theorem overlapAt_iff [DecidableEq Id] [DecidableEq Metadata]
    (ordered : ∀ p ∈ xs, p.Ordered) (found : xs[j]? = some p) :
    OverlapAt xs xs.length j ↔ ∃ q ∈ xs.erase p, Meet p q := by
  have inside := (List.getElem?_eq_some_iff.mp found).1
  have first := ordered p (List.mem_of_getElem? found)
  rw [other_iff found]
  unfold OverlapAt spanAt
  rw [found, Option.bind_some]
  constructor
  · rintro ⟨-, k, lt, other, a, b, a', b', left, right, meets⟩
    rw [List.getElem?_eq_getElem lt] at right
    exact ⟨k, other, xs[k], List.getElem?_eq_getElem lt,
      (meet_iff first (ordered _ (List.getElem_mem lt))).mpr ⟨a, b, a', b', left, right, meets⟩⟩
  · rintro ⟨k, other, q, known, meet⟩
    obtain ⟨a, b, a', b', left, right, meets⟩ := (meet_iff first (ordered q (List.mem_of_getElem? known))).mp meet
    exact ⟨inside, k, (List.getElem?_eq_some_iff.mp known).1, other, a, b, a', b', left, by rwa [known], meets⟩

section
variable [DecidableEq Id] [DecidableEq Metadata] {programmes out : List (Programme Id Metadata)} {work : Work}

/-- The programme with the marks that the others of the list give it. -/
noncomputable def markedAmong (programmes : List (Programme Id Metadata)) (p : Programme Id Metadata) :
    Programme Id Metadata :=
  p.marked (∃ q ∈ programmes.erase p, SameStart p q) (∃ q ∈ programmes.erase p, Meet p q)

theorem markedAmong_perm {others : List (Programme Id Metadata)} (same : others.Perm programmes) :
    markedAmong others = markedAmong programmes := by
  funext p
  have member (q : Programme Id Metadata) : q ∈ others.erase p ↔ q ∈ programmes.erase p := (same.erase p).mem_iff
  unfold markedAmong
  congr 1 <;> simp only [member]

theorem ambiguity_marks (ordered : ∀ p ∈ programmes, p.Ordered) (done : ambiguity programmes work = .ok out) :
    out.Perm (programmes.map (markedAmong programmes)) := by
  have same := List.mergeSort_perm programmes keyLe
  have sorted := mergeSort_sorted programmes
  unfold ambiguity at done
  generalize programmes.mergeSort keyLe = xs at same sorted done
  have ordered' : ∀ p ∈ xs, p.Ordered := fun p member => ordered p (same.mem_iff.mp member)
  have grows (k : Nat) (a b : Int) (known : spanAt xs k = some (a, b)) : a < b := by
    unfold spanAt at known
    cases found : xs[k]? with
    | none => simp [found] at known
    | some p =>
      rw [found, Option.bind_some] at known
      exact ordered' p (List.mem_of_getElem? found) a b known
  cases swept : sweepFrom work ⟨xs, 0, none, 0⟩ (List.range xs.length) with
  | error =>
    simp only [swept] at done
    cases done
  | ok sweep =>
    simp only [swept] at done
    cases done
    have start : Swept xs 0 ⟨xs, 0, none, 0⟩ := by
      refine ⟨(Marks.unmarked xs).congr (fun j => ?_) fun j => ?_, fun positive => absurd positive (by simp), ?_⟩
      · simp [ConflictAt]
      · simp [OverlapAt]
      · constructor <;> simp
    rw [List.range_eq_range'] at swept
    have marks := (swept_from sorted grows xs.length (Nat.zero_add _) start swept).marks
    have whole : sweep.programmes = xs.map (markedAmong xs) := by
      apply List.ext_getElem?
      intro j
      rw [marks j, List.getElem?_map]
      cases found : xs[j]? with
      | none => rfl
      | some =>
        rw [Option.map_some, Option.map_some, markedAmong, conflictAt_iff found, overlapAt_iff ordered' found]
    show sweep.programmes.Perm _
    rw [whole, markedAmong_perm same]
    exact same.map _

/-- A programme is marked exactly when another one of the channel begins with it, or is on
with it, in whatever order they come. -/
theorem ambiguity_exact (ordered : ∀ p ∈ programmes, p.Ordered) :
    (∀ work out, ambiguity programmes work = .ok out → out.Perm (programmes.map (markedAmong programmes))) ∧
    (∀ work : Work, work.InTime → ∃ out, ambiguity programmes work = .ok out) ∧
    ∀ programmes' work work' out out', programmes'.Perm programmes → ambiguity programmes work = .ok out →
      ambiguity programmes' work' = .ok out' → out'.Perm out := by
  refine ⟨fun work out => ambiguity_marks ordered, fun work inTime => ?_, ?_⟩
  · unfold ambiguity
    obtain ⟨final, done⟩ := sweepFrom_inTime inTime (List.range (programmes.mergeSort keyLe).length)
      ⟨programmes.mergeSort keyLe, 0, none, 0⟩
    exact ⟨final.programmes, by simp only [done]; rfl⟩
  · intro programmes' work work' out out' same done done'
    have ordered' : ∀ p ∈ programmes', p.Ordered := fun p member => ordered p (same.mem_iff.mp member)
    have marks' := ambiguity_marks ordered' done'
    rw [markedAmong_perm same] at marks'
    exact (marks'.trans (same.map _)).trans (ambiguity_marks ordered done).symm

end

theorem savedProgramme_ordered (id : Id) (start stop : Option Int) (clumpidx : Bool) (metadata : Metadata) :
    (savedProgramme id start stop clumpidx metadata).Ordered := by
  intro a b span
  unfold savedProgramme Programme.span at span
  cases start with
  | none => simp at span
  | some first =>
    cases stop with
    | none => simp at span
    | some last =>
      by_cases backwards : first ≥ last
      · simp [backwards] at span
      · simp [backwards] at span
        omega

def Sample.film : Programme Nat Nat := savedProgramme 1 (some 15) (some 30) false 0
def Sample.news : Programme Nat Nat := savedProgramme 2 (some 10) (some 20) false 0

/-- The film begins before the news end. -/
theorem film_overlaps_news : ∃ out,
    ambiguity [Sample.film, Sample.news] ⟨fun _ => false, fun _ => false, 0, 0, 0⟩ = .ok out ∧
      out.Perm [{ Sample.film with flags := overlap }, { Sample.news with flags := overlap }] := by
  have ordered : ∀ p ∈ [Sample.film, Sample.news], p.Ordered := by
    intro p member
    simp only [List.mem_cons, List.not_mem_nil, or_false] at member
    rcases member with rfl | rfl <;> exact savedProgramme_ordered _ _ _ _ _
  obtain ⟨marks, done, -⟩ := ambiguity_exact ordered
  obtain ⟨out, done⟩ := done ⟨fun _ => false, fun _ => false, 0, 0, 0⟩ fun _ => ⟨rfl, rfl⟩
  refine ⟨out, done, (marks _ out done).trans (.of_eq ?_)⟩
  have film : [Sample.film, Sample.news].erase Sample.film = [Sample.news] := by decide
  have news : [Sample.film, Sample.news].erase Sample.news = [Sample.film] := by decide
  have onFilm : Sample.film.On 17 := ⟨15, 30, rfl, by decide, by decide⟩
  have onNews : Sample.news.On 17 := ⟨10, 20, rfl, by decide, by decide⟩
  have apart : ¬ SameStart Sample.film Sample.news ∧ ¬ SameStart Sample.news Sample.film := by
    constructor <;> rintro ⟨-, same⟩ <;> exact absurd same (by decide)
  simp only [List.map_cons, List.map_nil, markedAmong, film, news, List.mem_singleton, exists_eq_left, Programme.marked,
    flagIf_neg _ apart.1, flagIf_neg _ apart.2,
      flagIf_pos overlap (show Meet Sample.film Sample.news from ⟨17, onFilm, onNews⟩),
    flagIf_pos overlap (show Meet Sample.news Sample.film from ⟨17, onNews, onFilm⟩)]
  rfl

end Duskcue.Imports
